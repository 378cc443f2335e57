import MqttLink.Proofs.OneStream

/-!
# Connecting

A connect tears down what there is, dials once, and then it is connected with a loop or nothing is left
but its error. Main statement: it is so from every state that a session can reach, and until the next
connect nobody dials again.
-/

namespace MqttLink

variable {ω κ δ φ : Type}

/-- A request is refused for itself only. -/
theorem ConnectRequest.validate_error {request : ConnectRequest} {e : SessionError}
    (refused : request.validate = .error e) : ∃ reason, e = .invalidConfig reason := by
  unfold validate at refused
  by_cases blank : Text.allBlank request.host = true
  · simp only [blank, if_true] at refused
    cases refused
    exact ⟨_, rfl⟩
  · by_cases empty : request.port = some ""
    · simp only [blank, empty, if_true] at refused
      cases refused
      exact ⟨_, rfl⟩
    · simp only [blank, empty] at refused
      cases refused

/-! ## Getting on -/

/-- How many turns of the caller are left at most. -/
def Call.turns : Call δ φ → Nat
  | stopping _ => 4
  | leaving .. => 3
  | joining _ => 2
  | dialing _ => 1
  | idle | finished _ => 0

namespace Session

variable {b : Backend ω κ δ φ} {x : Session ω κ δ φ}

theorem isOver_of_result {result : Except SessionError Unit} (done : x.result? = some result) :
    x.call.isOver = true := by
  unfold result? at done
  split at done
  · rename_i call
    rw [call]
    rfl
  · cases done

theorem sayGoodbye_goal? (now : Nat) (goal : Goal) : (x.sayGoodbye b now goal).call.goal? = some goal := by
  unfold sayGoodbye
  split <;> rfl

theorem OperateStep.loop {op : Operation} {r : Except SessionError Unit × Session ω κ δ φ}
    (s : OperateStep b op x r) : r.2.loop = x.loop := by
  cases s <;> rfl

theorem stepLoop_of_none (loop : x.loop = none) (now : Nat) : x.stepLoop b now = (false, x) := by
  rw [stepLoop, loop]

/-- A farewell or a dial has to wait. -/
inductive Waits (b : Backend ω κ δ φ) (now : Nat) (x : Session ω κ δ φ) : Prop
  | farewell {goal : Goal} {f f' : φ} {w : ω} (call : x.call = .leaving goal f)
      (polled : b.pollLeave now f x.outside = (.waiting f', w))
  | dial {d d' : δ} {w : ω} (call : x.call = .dialing d)
      (polled : b.pollDial now d x.outside = (.waiting d', w))

theorem stepCall_turns (busy : x.call.isOver = false) (ended : x.call.goal?.isSome → x.LoopOver)
    (now : Nat) : Waits b now x ∨ (x.stepCall b now).2.call.turns < x.call.turns := by
  cases call : x.call with
  | idle | finished => simp [call, Call.isOver] at busy
  | stopping goal =>
    right
    unfold stepCall sayGoodbye
    rw [call]
    dsimp only
    split <;> simp [Call.turns]
  | leaving goal f =>
    rcases polled : b.pollLeave now f x.outside with ⟨r, w⟩
    cases r with
    | waiting f' => exact .inl (.farewell call polled)
    | done client =>
      right
      simp [stepCall, call, polled, Call.turns]
  | joining goal =>
    right
    rw [stepCall_joining call (ended (by simp [call, Call.goal?]))]
    cases goal <;> simp [pursue, dialFor, Call.turns]
  | dialing d =>
    rcases polled : b.pollDial now d x.outside with ⟨r, w⟩
    cases r with
    | waiting d' => exact .inl (.dial call polled)
    | done result =>
      right
      cases result <;> simp [stepCall, call, polled, recordDial, Call.turns]

/-- After a turn of the loop the caller waits for nothing but a farewell and a dial. -/
theorem Inv.advances (inv : Inv x) (busy : x.call.isOver = false) (now : Nat) :
    let z := (x.stepLoop b now).2
    Waits b now z ∨ (z.stepCall b now).2.call.turns < z.call.turns := by
  have same := (Session.loopStep b now x).call
  refine stepCall_turns (by rwa [same]) (fun _ => loopOver_of_stopping (fun l loop => ?_) now) now
  rw [inv.asked l loop, busy]
  rfl

end Session

/-! ## Where a connect stands -/

namespace Streams

variable {b : Backend ω κ δ φ} (S : Streams b) (w : ω) (before : List (DialRecord ω))
  (plan : ConnectPlan) (handler : Option Handler) {x y : Session (Logged ω) κ δ φ}

/-- It has dialed once, as it was asked to, when nothing was open any more. -/
def DialedOnce (x : Session (Logged ω) κ δ φ) : Prop :=
  ∃ record, x.outside.dials = before ++ [record] ∧ record.settings = x.settings ∧
    record.plan = plan ∧ record.handler = handler ∧ S.isOpen record.outside ⊆ S.isOpen w

/-- A connected session that remembers no failure and nothing to subscribe, with a loop that has just
begun. -/
structure Fresh (x : Session (Logged ω) κ δ φ) : Prop where
  status : x.state.status = .connected
  client : x.state.client.isSome
  retries : x.state.retries = 0
  lastError : x.state.lastError = none
  subscriptions : x.state.subscriptions = []
  plan : x.state.plan = some plan
  handler : x.state.handler = handler
  loop : x.loop = some {}
  snapshot : x.snapshot = x.state.snapshot b.logged

variable (b) in
/-- Nothing is left but an error. -/
structure Failed (e : SessionError) (x : Session (Logged ω) κ δ φ) : Prop where
  status : x.state.status = .disconnected
  client : x.state.client = none
  plan : x.state.plan = none
  handler : x.state.handler = none
  lastError : x.snapshot.lastError.map SessionError.message = some e.message
  loop : x.loop = none
  snapshot : x.snapshot = x.state.snapshot b.logged

inductive Connects (x : Session (Logged ω) κ δ φ) : Prop
  | tearingDown (goal : x.call.goal? = some (.connect plan handler)) (dials : x.outside.dials = before)
  /-- Nothing is left of the session before. -/
  | dialing {d : δ} (call : x.call = .dialing d) (once : S.DialedOnce w before plan handler x)
      (loop : x.loop = none) (state : x.state = State.begin b.logged plan handler {})
  | succeeded (result : x.result? = some (.ok ())) (once : S.DialedOnce w before plan handler x)
      (fresh : Fresh (b := b) plan handler x)
  | failed {e : SessionError} (result : x.result? = some (.error e))
      (once : S.DialedOnce w before plan handler x) (failed : Failed b e x)

variable {S w before plan handler}

theorem DialedOnce.of_same (once : S.DialedOnce w before plan handler x)
    (dials : y.outside.dials = x.outside.dials) (settings : y.settings = x.settings) :
    S.DialedOnce w before plan handler y := by
  obtain ⟨record, one, kept, rest⟩ := once
  exact ⟨record, by rw [dials, one], by rw [kept, settings], rest⟩

/-- A connect begins to dial when nothing is left of the session before. -/
theorem connects_dialFor (now : Nat) (loop : x.loop = none) (state : x.state = {})
    (closed : S.isOpen x.outside.outside ⊆ S.isOpen w) (dials : x.outside.dials = before) :
    S.Connects w before plan handler (x.dialFor b.logged now plan handler) := by
  refine .dialing rfl ⟨⟨now, x.settings, plan, handler, x.outside.outside⟩, ?_, rfl, rfl, rfl, closed⟩
    loop ?_
  · rw [← dials]
    rfl
  · change State.begin b.logged plan handler x.state = _
    rw [state]

theorem connects_start {now : Nat} {request : ConnectRequest} (r : Session.Reachable b.logged x)
    (free : x.call.isOver = true) (loose : S.logged.loose x ⊆ S.isOpen w)
    (valid : request.validate = .ok ()) :
    S.Connects w x.outside.dials request.plan handler (x.connect b.logged now request handler) := by
  unfold Session.connect
  rw [valid]
  dsimp only
  unfold Session.tearDown
  split
  · rename_i nothing
    have loop : x.loop = none := by simpa using nothing.2
    have blank : x.snapshot.status = .uninitialized := by simpa [Status.isInitialized] using nothing.1
    have begins : Session.Begins b x (.connect now request handler) _ := .unused loop blank
    exact connects_dialFor now loop (r.unused (r.inv.told ▸ blank))
      ((isOpen_begins (S := S) r begins free).trans loose) rfl
  · exact .tearingDown rfl rfl

theorem connects_clear {now : Nat} (r : Session.Reachable b.logged x)
    (call : x.call = .joining (.connect plan handler)) (past : x.LoopOver)
    (loose : S.logged.loose x ⊆ S.isOpen w) (dials : x.outside.dials = before) :
    S.Connects w before plan handler
      (({ x with loop := none }.act (State.reset b.logged)).dialFor b.logged now plan handler) := by
  have begins : Session.Begins b x (.call now) _ := .cleared call past
  refine connects_dialFor now rfl (State.reset_fst b.logged _ _) ?_ ?_
  · have closed := (isOpen_begins (S := S) r begins trivial).trans loose
    rwa [Session.act_outside, State.reset_logged]
  · rw [← dials]
    exact (Logged.spares b).reset _ _

theorem connects_dialed {result : Except SessionError κ}
    (once : S.DialedOnce w before plan handler x) (loop : x.loop = none)
    (state : x.state = State.begin b.logged plan handler {}) :
    S.Connects w before plan handler (x.recordDial b.logged result) := by
  have spares := (Logged.spares b).recordDial (x := x) result
  cases result with
  | ok client =>
    refine .succeeded rfl (once.of_same spares rfl) ?_
    constructor <;>
      simp [Session.recordDial, state, State.begin, State.install, State.setStatus, Session.snapshot,
        State.snapshot]
  | error e =>
    refine .failed rfl (once.of_same spares rfl) ?_
    constructor <;>
      simp [Session.recordDial, State.abandon_fst, loop, Session.snapshot, State.snapshot]

theorem connects_callStep {now : Nat} {p : Bool × Session (Logged ω) κ δ φ}
    (r : Session.Reachable b.logged x) (busy : x.call.isOver = false)
    (loose : S.logged.loose x ⊆ S.isOpen w) (connects : S.Connects w before plan handler x)
    (s : Session.CallStep b.logged now x p) : S.Connects w before plan handler p.2 := by
  have spares := Logged.spares b
  cases connects with
  | tearingDown goal dials =>
    cases s with
    | stay => exact .tearingDown goal dials
    | leave call up held =>
      rw [call] at goal
      exact .tearingDown ((Session.sayGoodbye_goal? ..).trans goal) ((spares.sayGoodbye _).trans dials)
    | join call down =>
      rw [call] at goal
      exact .tearingDown goal dials
    | leaveOn call polled | left call polled =>
      rw [call] at goal
      have same := spares.left polled
      exact .tearingDown goal (same.trans dials)
    | clear call past =>
      rw [call] at goal
      cases goal
      exact connects_clear r call past loose dials
    | dialOn call polled | dialed call polled =>
      rw [call] at goal
      cases goal
  | dialing call once loop state =>
    cases s with
    | stay => exact .dialing call once loop state
    | dialOn call polled => exact .dialing rfl (once.of_same (spares.dialed polled) rfl) loop state
    | @dialed d result w' call polled =>
      exact connects_dialed (x := { x with outside := w' })
        (once.of_same (spares.dialed polled) rfl) loop state
    | leave call' | join call' | leaveOn call' | left call' | clear call' =>
      rw [call] at call'
      cases call'
  | succeeded result | failed result => simp [Session.isOver_of_result result] at busy

theorem connects_move {m : Session.Move (Logged ω)} (r : Session.Reachable b.logged x)
    (allowed : m.Allowed x) (kept : m.KeepsRecord x) (busy : x.call.isOver = false)
    (loose : S.logged.loose x ⊆ S.isOpen w) (connects : S.Connects w before plan handler x) :
    S.Connects w before plan handler (m.run b.logged x) := by
  cases m with
  | call now => exact connects_callStep r busy loose connects (Session.callStep b.logged now x)
  | connect | disconnect | rest => exact absurd allowed (by simp [Session.Move.Allowed, busy])
  | loop now =>
    cases connects with
    | tearingDown goal dials =>
      refine .tearingDown ((Session.loopStep b.logged now x).call ▸ goal) ?_
      rcases Session.dials_move (b := b) kept with same | ⟨record, begins, -⟩
      · exact same.trans dials
      · -- A loop that was told to stop does not dial.
        cases begins with
        | redial loop => simpa [busy] using r.inv.asked _ loop
    | dialing call once loop state =>
      rw [Session.Move.run, Session.stepLoop_of_none loop]
      exact .dialing call once loop state
    | succeeded result | failed result => simp [Session.isOver_of_result result] at busy
  | operate op =>
    have s := Session.operateStep b.logged op x
    cases connects with
    | tearingDown goal dials =>
      have same := (Logged.spares b).operateStep (Logged.operations b) s
      exact .tearingDown (s.call ▸ goal) (same.trans dials)
    | dialing call => simp [Session.Move.Allowed, call, Call.holdsState] at allowed
    | succeeded result | failed result => simp [Session.isOver_of_result result] at busy
  | outside w' =>
    cases connects with
    | tearingDown goal dials => exact .tearingDown goal (kept.trans dials)
    | dialing call once loop state => exact .dialing call (once.of_same kept rfl) loop state
    | succeeded result | failed result => simp [Session.isOver_of_result result] at busy
  | collect =>
    cases connects with
    | tearingDown goal dials => exact .tearingDown goal dials
    | dialing call once loop state => exact .dialing call (once.of_same rfl rfl) loop state
    | succeeded result | failed result => simp [Session.isOver_of_result result] at busy

/-! ## Afterwards -/

/-- There is no loop, and nobody is about to dial. -/
structure Resting (x : Session (Logged ω) κ δ φ) : Prop where
  loop : x.loop = none
  call : x.call.isOver = true ∨ x.call.goal? = some .disconnect

theorem Resting.dials {m : Session.Move (Logged ω)} (resting : Resting x) (kept : m.KeepsRecord x)
    (unconnected : m.isConnect = false) : (m.run b.logged x).outside.dials = x.outside.dials := by
  rcases Session.dials_move kept with same | ⟨record, begins, -⟩
  · exact same
  · cases begins with
    | redial loop => simp [resting.loop] at loop
    | cleared call past =>
      rcases resting.call with done | goal
      · simp [call, Call.isOver] at done
      · simp [call, Call.goal?] at goal
    | unused => cases unconnected

theorem Resting.callStep {now : Nat} {p : Bool × Session (Logged ω) κ δ φ} (resting : Resting x)
    (s : Session.CallStep b.logged now x p) : Resting p.2 := by
  have busy : ∀ {call}, x.call = call → call.isOver = false → call.goal? = some .disconnect := by
    rintro _ rfl busy
    exact resting.call.resolve_left (by simp [busy])
  cases s with
  | stay => exact resting
  | leave call up held =>
    refine ⟨?_, .inr ((Session.sayGoodbye_goal? ..).trans (busy call rfl))⟩
    simpa [Session.sayGoodbye, up, held] using resting.loop
  | join call down | leaveOn call polled | left call polled =>
    have goal := busy call rfl
    exact ⟨resting.loop, .inr goal⟩
  | clear call past =>
    cases busy call rfl
    exact ⟨rfl, .inl rfl⟩
  | dialOn call polled | dialed call polled => cases busy call rfl

theorem Resting.move {m : Session.Move (Logged ω)} (resting : Resting x)
    (unconnected : m.isConnect = false) : Resting (m.run b.logged x) := by
  cases m with
  | loop now =>
    rw [Session.Move.run, Session.stepLoop_of_none resting.loop]
    exact resting
  | call now => exact resting.callStep (Session.callStep b.logged now x)
  | connect => cases unconnected
  | disconnect now =>
    change Resting (x.tearDown b.logged now .disconnect)
    unfold Session.tearDown
    split
    · exact ⟨resting.loop, .inl rfl⟩
    · exact ⟨by simp [resting.loop], .inr rfl⟩
  | operate op =>
    have s := Session.operateStep b.logged op x
    exact ⟨s.loop.trans resting.loop, s.call ▸ resting.call⟩
  | outside | collect => exact ⟨resting.loop, resting.call⟩
  | rest => exact ⟨resting.loop, .inl rfl⟩

theorem Run.resting
    (run : S.logged.Run (fun z m => m.isConnect = false ∧ m.KeepsRecord z) x y) (resting : Resting x) :
    Resting y ∧ y.outside.dials = x.outside.dials := by
  induction run with
  | start => exact ⟨resting, rfl⟩
  | move run allowed closed granted ih =>
    exact ⟨ih.1.move granted.1, (ih.1.dials granted.2 granted.1).trans ih.2⟩

/-! ## The whole of it -/

theorem Run.connects {settings : Settings} {now : Nat} {request : ConnectRequest}
    (reached : S.logged.Run Session.Move.KeepsRecord { settings, outside := { outside := w } } x)
    (free : x.call.isOver = true) (valid : request.validate = .ok ())
    (underway : S.logged.Run (fun y m => y.call.isOver = false ∧ m.KeepsRecord y)
      (x.connect b.logged now request handler) y) :
    Session.Reachable b.logged y ∧ S.logged.loose y ⊆ S.isOpen w ∧
      S.Connects w x.outside.dials request.plan handler y := by
  have new : Session.Reachable b.logged { settings, outside := { outside := w } } := .new settings _
  have r := reached.reachable new
  have r' := r.move (m := .connect now request handler) free
  have loose : S.logged.loose x ⊆ S.isOpen w := (reached.loose new).trans Set.sdiff_subset
  have loose' : S.logged.loose (x.connect b.logged now request handler) ⊆ S.isOpen w :=
    (loose_move (m := .connect now request handler) r.inv free trivial).trans loose
  induction underway with
  | start => exact ⟨r', loose', connects_start r free loose valid⟩
  | @move y m run allowed closed granted ih =>
    obtain ⟨ry, looseY, connects⟩ := ih
    exact ⟨ry.move allowed, (loose_move ry.inv allowed closed).trans looseY,
      connects_move ry allowed granted.2 granted.1 looseY connects⟩

/-- A request that cannot work changes nothing. Any other tears down what there is, waits for nothing
but a farewell and its dial, and dials once. Then it is connected, or nothing is left but its error, and
nobody dials before the next connect. -/
theorem connect_all_or_nothing {settings : Settings} {now : Nat} {request : ConnectRequest}
    (reached : S.logged.Run Session.Move.KeepsRecord { settings, outside := { outside := w } } x)
    (free : x.call.isOver = true) :
    (∀ e, request.validate = .error e → (∃ reason, e = .invalidConfig reason) ∧
      x.connect b.logged now request handler = { x with call := .finished (.error e) }) ∧
    (request.validate = .ok () → ∀ y, S.logged.Run (fun y m => y.call.isOver = false ∧ m.KeepsRecord y)
        (x.connect b.logged now request handler) y →
      S.Connects w x.outside.dials request.plan handler y ∧
      (y.call.isOver = false → ∀ t, let z := (y.stepLoop b.logged t).2
        Session.Waits b.logged t z ∨ (z.stepCall b.logged t).2.call.turns < z.call.turns) ∧
      ∀ e, y.result? = some (.error e) →
        S.logged.held y = ∅ ∧ S.isOpen y.outside.outside ⊆ S.isOpen w ∧
        ∀ z, S.logged.Run (fun z m => m.isConnect = false ∧ m.KeepsRecord z) y z →
          z.outside.dials = y.outside.dials) := by
  refine ⟨fun e refused => ⟨ConnectRequest.validate_error refused, ?_⟩, fun valid y underway => ?_⟩
  · rw [Session.connect, refused]
  obtain ⟨r, loose, connects⟩ := reached.connects free valid underway
  refine ⟨connects, fun busy => r.inv.advances busy, fun e result => ?_⟩
  have past := Session.isOver_of_result result
  cases connects with
  | tearingDown goal => simp [Call.not_isOver_of_goal goal] at past
  | dialing call => simp [call, Call.isOver] at past
  | succeeded result' =>
    rw [result] at result'
    cases result'
  | failed result' once failed =>
    have held : S.logged.held y = ∅ := by
      rw [Streams.held, ofState_none failed.client, failed.loop, ofCall_of_isOver past]
      simp [ofLoop]
    rw [Streams.loose, held, Set.sdiff_empty] at loose
    exact ⟨held, loose, fun z after => (after.resting ⟨failed.loop, .inl past⟩).2⟩

/-- A connect in the middle of a backoff, to a broker that refuses. -/
theorem connect_all_or_nothing_refused :
    ∃ (w : Lines) (x y : Session (Logged Lines) Lines.Speaker Lines.Dial Lines.Leave),
      Lines.streams.logged.Run Session.Move.KeepsRecord { settings := {}, outside := { outside := w } } x ∧
      (x.loop.map fun l => l.phase matches .backingOff ..) = some true ∧
      y.result? = some (.error (.unreachable "h" "1883" "refused")) ∧
      y.outside.outside.links.map (·.closed) = #[true] ∧ y.outside.dials.length = 2 ∧
      Lines.streams.Connects w x.outside.dials ({ host := "h" } : ConnectRequest).plan none y := by
  let script : List Line :=
    [{ answer := .link [.now (.feed [0x20, 2, 0, 0]), .now .finish] }, { answer := .refused "refused" }]
  have r : Lines.streams.logged.Run Session.Move.KeepsRecord
    { settings := {}, outside := { outside := { script } } } _ := .start
  have r := r.move (m := .connect 0 { host := "h" } none) rfl trivial trivial
  have r := r.move (m := .call 0) trivial trivial trivial
  have r := r.move (m := .loop 0) trivial trivial trivial
  have asked : ∀ {w : Lines} {x}, Lines.streams.logged.Run Session.Move.KeepsRecord
        { settings := {}, outside := { outside := w } } x →
      Lines.streams.logged.Run (fun y m => y.call.isOver = false ∧ m.KeepsRecord y)
        (x.connect Lines.backend.logged 5 { host := "h" } none)
        (x.connect Lines.backend.logged 5 { host := "h" } none) := fun _ => .start
  have u := asked r
  have u := u.move (m := .loop 5) trivial trivial ⟨by cbv, trivial⟩
  have u := u.move (m := .call 5) trivial trivial ⟨by cbv, trivial⟩
  have u := u.move (m := .call 5) trivial trivial ⟨by cbv, trivial⟩
  have u := u.move (m := .call 5) trivial trivial ⟨by cbv, trivial⟩
  have connects := ((connect_all_or_nothing r (by cbv)).2 (by cbv) _ u).1
  exact ⟨_, _, _, r, by cbv, by cbv, by cbv, by cbv, connects⟩

end Streams

end MqttLink
