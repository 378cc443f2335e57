import MqttLink.Proofs.Connecting

/-!
# What a session remembers to subscribe

The subscriptions of a session are what its operations have made of an empty list since its connect, those
that succeeded, in their order. Main statement: losses and reconnects change nothing about it, and a
reconnect subscribes just these again.
-/

namespace MqttLink

variable {ω κ δ φ : Type}

/-! ## Lists of subscriptions -/

/-- What an operation that succeeds makes of a list. A new topic comes last, a known one keeps its place
and gets the new level. -/
def Operation.effect : Operation → List (String × QoS) → List (String × QoS)
  | publish .., l => l
  | subscribe topic qos, l =>
    if topic ∈ l.map Prod.fst then l.map fun s => if s.1 = topic then (topic, qos) else s
    else l ++ [(topic, qos)]
  | unsubscribe topic, l => l.filter (·.1 ≠ topic)

/-- What operations make of an empty list. -/
def replay (done : List Operation) : List (String × QoS) := done.foldl (fun l op => op.effect l) []

theorem replay_snoc (done : List Operation) (op : Operation) :
    replay (done ++ [op]) = op.effect (replay done) := by
  simp [replay]

theorem remembered_eq_effect {topic : String} {qos : QoS} {l : List (String × QoS)}
    (nodup : (l.map Prod.fst).Nodup) :
    State.remembered topic qos l = (Operation.subscribe topic qos).effect l := by
  induction l with
  | nil => rfl
  | cons s rest ih =>
    obtain ⟨t, q⟩ := s
    rw [List.map_cons, List.nodup_cons] at nodup
    unfold State.remembered
    by_cases same : t = topic
    · subst same
      -- The topic stands nowhere else, and all that follows stays.
      have others : ∀ s ∈ rest, (if s.1 = t then (t, qos) else s) = s := by
        intro s mem
        exact if_neg fun again => nodup.1 (List.mem_map.mpr ⟨s, mem, again⟩)
      simp [Operation.effect, List.map_congr_left others]
    · rw [if_neg same, ih nodup.2]
      by_cases known : topic ∈ rest.map Prod.fst
      · simp [Operation.effect, known, same]
      · simp [Operation.effect, known, Ne.symm same]

theorem Operation.remember_eq_effect {op : Operation} {l : List (String × QoS)}
    (nodup : (l.map Prod.fst).Nodup) : op.remember l = op.effect l := by
  cases op with
  | publish | unsubscribe => rfl
  | subscribe topic qos => exact remembered_eq_effect nodup

theorem Operation.nodup_effect (op : Operation) {l : List (String × QoS)}
    (nodup : (l.map Prod.fst).Nodup) : ((op.effect l).map Prod.fst).Nodup := by
  cases op with
  | publish => exact nodup
  | unsubscribe topic => exact nodup.sublist (List.filter_sublist.map Prod.fst)
  | subscribe topic qos =>
    change ((if topic ∈ l.map Prod.fst then l.map fun s => if s.1 = topic then (topic, qos) else s
      else l ++ [(topic, qos)]).map Prod.fst).Nodup
    split
    · have keys : (l.map fun s => if s.1 = topic then (topic, qos) else s).map Prod.fst =
          l.map Prod.fst := by
        rw [List.map_map]
        refine List.map_congr_left fun s _ => ?_
        simp only [Function.comp_apply]
        split
        · rename_i same
          exact same.symm
        · rfl
      rwa [keys]
    · rename_i new
      rw [List.map_append, List.nodup_append]
      refine ⟨nodup, List.nodup_singleton _, ?_⟩
      rintro t mem t' last rfl
      obtain rfl : t = topic := List.mem_singleton.mp last
      exact new mem

theorem nodup_replay (done : List Operation) : ((replay done).map Prod.fst).Nodup := by
  induction done using List.reverseRecOn with
  | nil => exact List.nodup_nil
  | append_singleton done op ih =>
    rw [replay_snoc]
    exact op.nodup_effect ih

/-! ## The list of a session -/

def Call.isDialing : Call δ φ → Bool
  | dialing _ => true
  | idle | stopping _ | leaving .. | joining _ | finished _ => false

namespace Session

variable {b : Backend ω κ δ φ} {x y : Session ω κ δ φ}

/-- The operation of a move, if it succeeds. -/
def Move.succeeded (b : Backend ω κ δ φ) (x : Session ω κ δ φ) : Move ω → List Operation
  | operate op =>
    match (x.operate b op).1 with
    | .ok () => [op]
    | .error _ => []
  | loop _ | call _ | connect .. | disconnect _ | outside _ | collect | rest => []

/-- An operation that fails changes nothing about the list. -/
theorem operate_remembers (op : Operation) :
    ((x.operate b op).1 = .ok () ∧
      (x.operate b op).2.state.subscriptions = op.remember x.state.subscriptions) ∨
    ∃ e, (x.operate b op).1 = .error e ∧
      (x.operate b op).2.state.subscriptions = x.state.subscriptions := by
  have s := operateStep b op x
  generalize x.operate b op = r at s
  cases s with
  | refuse e => exact .inr ⟨e, rfl, rfl⟩
  | succeed => exact .inl ⟨rfl, rfl⟩
  | «break» => exact .inr ⟨_, rfl, by simp [State.markLost_fst, called]⟩
  | fail => exact .inr ⟨_, rfl, rfl⟩

theorem operate_replays {done : List Operation} (op : Operation)
    (list : x.state.subscriptions = replay done) :
    (x.operate b op).2.state.subscriptions = replay (done ++ (Move.operate op).succeeded b x) := by
  rcases operate_remembers (b := b) (x := x) op with ⟨ok, kept⟩ | ⟨e, failed, kept⟩
  · simp only [Move.succeeded, ok]
    rw [kept, list, replay_snoc, Operation.remember_eq_effect (nodup_replay done)]
  · simp only [Move.succeeded, failed, List.append_nil]
    rw [kept, list]

/-- Nothing is remembered while a connect dials. -/
theorem Reachable.dialing_subscriptions (r : Reachable b x) {d : δ} (call : x.call = .dialing d) :
    x.state.subscriptions = [] := by
  have begun : ∀ {now goal} {x : Session ω κ δ φ} {d : δ}, (x.pursue b now goal).call = .dialing d →
      (x.pursue b now goal).state.subscriptions = [] := by
    intro now goal x d call
    cases goal with
    | disconnect => cases call
    | connect plan handler => rfl
  have torn : ∀ {now goal} {x : Session ω κ δ φ} {d : δ}, (x.tearDown b now goal).call = .dialing d →
      (x.tearDown b now goal).state.subscriptions = [] := by
    intro now goal x d call
    unfold tearDown at call ⊢
    split at call
    · rename_i nothing
      rw [if_pos nothing]
      exact begun call
    · cases call
  induction r generalizing d with
  | new => cases call
  | @move x m r allowed ih =>
    cases m with
    | loop now =>
      have s := loopStep b now x
      exact s.subscriptions.trans (ih (s.call.symm.trans call))
    | call now =>
      change (x.stepCall b now).2.call = _ at call
      change (x.stepCall b now).2.state.subscriptions = []
      have s := callStep b now x
      generalize x.stepCall b now = p at s call
      cases s with
      | stay => exact ih call
      | @leave goal client stopping up held =>
        have asked := sayGoodbye_goal? (b := b) (x := x) now goal
        rw [call] at asked
        cases asked
      | join | leaveOn | left => cases call
      | clear joining past => exact begun call
      | dialOn dialing polled => exact ih dialing
      | @dialed dial result w dialing polled => cases result <;> cases call
    | connect now request handler =>
      change (x.connect b now request handler).call = _ at call
      change (x.connect b now request handler).state.subscriptions = []
      unfold connect at call ⊢
      split
      · rename_i e refused
        simp [refused] at call
      · rename_i valid
        simp only [valid] at call
        exact torn call
    | disconnect now => exact torn call
    | operate op =>
      have s := operateStep b op x
      have same : x.call = .dialing d := s.call.symm.trans call
      simp [Move.Allowed, same, Call.holdsState] at allowed
    | outside | collect => exact ih call
    | rest => cases call

/-! ## Since a connect -/

/-- A connect has just succeeded. -/
inductive JustConnected (b : Backend ω κ δ φ) : Session ω κ δ φ → Prop
  | intro {x : Session ω κ δ φ} {d : δ} {now : Nat} (reachable : Reachable b x)
      (dialing : x.call = .dialing d) (ok : (x.stepCall b now).2.result? = some (.ok ())) :
      JustConnected b (x.stepCall b now).2

/-- Asks for the end of the session. -/
def Move.restarts : Move ω → Bool
  | connect _ request _ => request.validate.isOk
  | disconnect _ => true
  | loop _ | call _ | operate _ | outside _ | collect | rest => false

/-- After any moves since `x`, up to the dial of the next connect. `asked` says whether anybody has asked
for the end of the session, and `done` are the operations that have succeeded. -/
inductive Since (b : Backend ω κ δ φ) (x : Session ω κ δ φ) :
    Bool → List Operation → Session ω κ δ φ → Prop
  | start : Since b x false [] x
  | move {asked : Bool} {done : List Operation} {y : Session ω κ δ φ} {m : Move ω}
      (since : Since b x asked done y) (allowed : m.Allowed y) (undialed : y.call.isDialing = false) :
      Since b x (asked || m.restarts) (done ++ m.succeeded b y) (m.run b y)

theorem JustConnected.reachable (connected : JustConnected b x) : Reachable b x := by
  cases connected with
  | intro reachable => exact reachable.move (m := .call _) trivial

theorem Since.reachable {asked : Bool} {done : List Operation} (since : Since b x asked done y)
    (r : Reachable b x) : Reachable b y := by
  induction since with
  | start => exact r
  | move since allowed undialed ih => exact ih.move allowed

/-- What is left to remember, from the connect to the end of the session. -/
inductive Remembers (done : List Operation) : Bool → Session ω κ δ φ → Prop
  | settled {x : Session ω κ δ φ} (call : x.call.isOver = true) (loop : x.loop.isSome)
      (list : x.state.subscriptions = replay done) : Remembers done false x
  | ending {x : Session ω κ δ φ} (call : x.call.goal?.isSome)
      (list : x.state.subscriptions = replay done) : Remembers done true x
  | ended {x : Session ω κ δ φ} (call : x.call.isOver = true) (blank : x.Blank) : Remembers done true x
  | dialing {x : Session ω κ δ φ} {d : δ} (call : x.call = .dialing d)
      (list : x.state.subscriptions = []) : Remembers done true x

theorem JustConnected.remembers (connected : JustConnected b x) : Remembers [] false x := by
  cases connected with
  | @intro x d now reachable dialing ok =>
    have s := callStep b now x
    have past := isOver_of_result ok
    have list := reachable.dialing_subscriptions dialing
    generalize x.stepCall b now = p at s ok past
    cases s with
    | stay => simp [dialing, Call.isOver] at past
    | dialOn => cases past
    | @dialed dial result w call polled =>
      cases result with
      | ok client => exact .settled rfl rfl list
      | error e => cases ok
    | leave call | join call | leaveOn call | left call | clear call =>
      rw [dialing] at call
      cases call

namespace Remembers

variable {done : List Operation} {asked : Bool} {m : Move ω}

/-- A move that neither subscribes nor asks for the end. -/
theorem quiet (remembers : Remembers done asked y) (silent : m.succeeded b x = [])
    (stays : m.restarts = false) :
    Remembers (done ++ m.succeeded b x) (asked || m.restarts) y := by
  rwa [silent, stays, List.append_nil, Bool.or_false]

theorem asks (goal : y.call.goal?.isSome) (list : y.state.subscriptions = replay done)
    (silent : m.succeeded b x = []) (ends : m.restarts = true) :
    Remembers (done ++ m.succeeded b x) (asked || m.restarts) y := by
  rw [silent, ends, List.append_nil, Bool.or_true]
  exact .ending goal list

theorem move_settled (allowed : m.Allowed x) (call : x.call.isOver = true) (loop : x.loop.isSome)
    (list : x.state.subscriptions = replay done) :
    Remembers (done ++ m.succeeded b x) (false || m.restarts) (m.run b x) := by
  have told : ∀ now goal, (x.tearDown b now goal).call.goal?.isSome ∧
      (x.tearDown b now goal).state.subscriptions = replay done := by
    intro now goal
    unfold tearDown
    rw [if_neg (by simp [Option.isSome_iff_ne_none.1 loop])]
    exact ⟨rfl, list⟩
  cases m with
  | loop now =>
    have s := loopStep b now x
    exact quiet (.settled (s.call ▸ call) (s.isSome ▸ loop) (s.subscriptions.trans list)) rfl rfl
  | call now =>
    rw [Move.run, stepCall_of_isOver call]
    exact quiet (.settled call loop list) rfl rfl
  | connect now request handler =>
    change Remembers _ _ (x.connect b now request handler)
    unfold connect
    cases valid : request.validate with
    | error e =>
      have stays : (Move.connect now request handler : Move ω).restarts = false := by
        rw [Move.restarts, valid]
        rfl
      exact quiet (.settled rfl loop list) rfl stays
    | ok =>
      have ends : (Move.connect now request handler : Move ω).restarts = true := by
        rw [Move.restarts, valid]
        rfl
      obtain ⟨goal, list⟩ := told now (.connect request.plan handler)
      exact asks goal list rfl ends
  | disconnect now =>
    obtain ⟨goal, list⟩ := told now .disconnect
    exact asks goal list rfl rfl
  | operate op =>
    have s := operateStep b op x
    exact .settled (s.call ▸ call) (s.loop ▸ loop) (operate_replays op list)
  | outside | collect => exact quiet (.settled call loop list) rfl rfl
  | rest => exact quiet (.settled rfl loop list) rfl rfl

theorem callStep {now : Nat} {p : Bool × Session ω κ δ φ} (s : CallStep b now x p)
    (goal : x.call.goal?.isSome) (list : x.state.subscriptions = replay done) :
    Remembers done true p.2 := by
  cases s with
  | stay => exact .ending goal list
  | leave call up held =>
    refine .ending (by rw [sayGoodbye_goal?]; rfl) ?_
    simpa [sayGoodbye, up, held] using list
  | join call | leaveOn call | left call =>
    rw [call] at goal
    exact .ending goal list
  | @clear goal' call past =>
    cases goal' with
    | disconnect => exact .ended rfl ⟨rfl, State.reset_fst b _ _⟩
    | connect plan handler => exact .dialing rfl rfl
  | dialOn call | dialed call =>
    rw [call] at goal
    cases goal

theorem move_ending (allowed : m.Allowed x) (goal : x.call.goal?.isSome)
    (list : x.state.subscriptions = replay done) :
    Remembers (done ++ m.succeeded b x) (true || m.restarts) (m.run b x) := by
  have busy : x.call.isOver = false := by
    obtain ⟨goal', is⟩ := Option.isSome_iff_exists.1 goal
    exact Call.not_isOver_of_goal is
  cases m with
  | loop now =>
    have s := loopStep b now x
    exact quiet (.ending (s.call ▸ goal) (s.subscriptions.trans list)) rfl rfl
  | call now => exact quiet (callStep (Session.callStep b now x) goal list) rfl rfl
  | connect | disconnect | rest => exact absurd allowed (by simp [Move.Allowed, busy])
  | operate op =>
    have s := operateStep b op x
    exact .ending (s.call ▸ goal) (operate_replays op list)
  | outside | collect => exact quiet (.ending goal list) rfl rfl

theorem move_ended (call : x.call.isOver = true) (blank : x.Blank) :
    Remembers (done ++ m.succeeded b x) (true || m.restarts) (m.run b x) := by
  cases connect : m.isConnect with
  | false =>
    rw [blank.run_eq call m connect]
    exact .ended (blank.alone call m).2 (blank.alone call m).1
  | true =>
    cases m with
    | connect now request handler =>
      change Remembers _ true (x.connect b now request handler)
      unfold Session.connect
      split
      · exact .ended rfl ⟨blank.loop, blank.state⟩
      · unfold tearDown
        rw [if_pos (by simp [snapshot, blank.loop, blank.state, Status.isInitialized])]
        exact .dialing rfl rfl
    | _ => cases connect

theorem move (remembers : Remembers done asked x) (allowed : m.Allowed x)
    (undialed : x.call.isDialing = false) :
    Remembers (done ++ m.succeeded b x) (asked || m.restarts) (m.run b x) := by
  cases remembers with
  | settled call loop list => exact move_settled allowed call loop list
  | ending goal list => exact move_ending allowed goal list
  | ended call blank => exact move_ended call blank
  | dialing call =>
    rw [call] at undialed
    cases undialed

end Remembers

theorem Since.remembers {asked : Bool} {done : List Operation} (since : Since b x asked done y)
    (connected : JustConnected b x) : Remembers done asked y := by
  induction since with
  | start => exact connected.remembers
  | move since allowed undialed ih => exact ih.move allowed undialed

/-! ## Reconnects -/

/-- A step of the loop brings the connection back. -/
def Reconnects (b : Backend ω κ δ φ) (now : Nat) (x : Session ω κ δ φ) : Prop :=
  x.state.status ≠ .connected ∧ (x.stepLoop b now).2.state.status = .connected

instance (now : Nat) (x : Session ω κ δ φ) : Decidable (Reconnects b now x) :=
  inferInstanceAs (Decidable (_ ∧ _))

theorem Reconnects.record {now : Nat} (reconnects : Reconnects b now x) (inv : Inv x) :
    ∃ client awake, x.loop = some ⟨.redialed (.ok client), awake, false⟩ ∧
      (x.stepLoop b now).2 = x.recordRedial b now (.ok client) := by
  obtain ⟨down, up⟩ := reconnects
  have s := loopStep b now x
  generalize x.stepLoop b now = r at s up
  cases s with
  | stay | block | rested | dialOn | dialed => exact absurd up down
  | stop => exact absurd ((endLoop_state ..).symm ▸ up) down
  | exchange loop free up' => exact absurd up' down
  | schedule loop free deciding =>
    rw [wait_state] at up
    exact absurd up (inv.deciding free loop deciding).2.2.2.2.2.2
  | unplanned | giveUp => simp [State.setStatus] at up
  | redial => simp [redial, State.setStatus] at up
  | @record awake result loop free =>
    cases result with
    | ok client => exact ⟨client, awake, loop, rfl⟩
    | error e => simp [recordRedial, State.setStatus] at up

theorem Inv.reconnects (inv : Inv x) {now : Nat} {client : κ} {awake : Bool}
    (loop : x.loop = some ⟨.redialed (.ok client), awake, false⟩)
    (went : (x.stepLoop b now).2 = x.recordRedial b now (.ok client)) : Reconnects b now x := by
  refine ⟨inv.away _ loop rfl, ?_⟩
  rw [went]
  simp [recordRedial, State.restoreSubscriptions, State.install, State.setStatus]

/-- After a loss the list is as it was. -/
theorem Remembers.reconnects {done : List Operation} {asked : Bool} {now : Nat}
    (remembers : Remembers done asked x) (inv : Inv x) (reconnects : Reconnects b now x) :
    x.state.subscriptions = replay done := by
  obtain ⟨client, awake, loop, -⟩ := reconnects.record inv
  cases remembers with
  | settled call running list => exact list
  | ending goal list => exact list
  | ended call blank => simp [blank.loop] at loop
  | dialing call => simp [(inv.dialing _ call).1] at loop

/-! ## Attempts of the loop -/

/-- What holds of an attempt from its dial on. -/
structure Attempts (b : Backend ω κ δ φ) (P : Phase κ δ → Prop) : Prop where
  home : ∀ {p}, p.isAway = false → P p
  backingOff : ∀ time plan handler, P (.backingOff time plan handler)
  dial : ∀ now settings plan handler w, P (.redialing (b.dial now settings plan handler w).1)
  dialOn : ∀ {now d w d' w'}, P (.redialing d) → b.pollDial now d w = (.waiting d', w') → P (.redialing d')
  dialed : ∀ {now d w result w'}, P (.redialing d) → b.pollDial now d w = (.done result, w') →
    P (.redialed result)

namespace Attempts

variable {P : Phase κ δ → Prop} (law : Attempts b P)

theorem goTo {g : Loop κ δ → Loop κ δ} (loop : y.loop = x.loop.map g)
    (phase : ∀ l, x.loop = some l → P l.phase → P (g l).phase)
    (holds : ∀ l, x.loop = some l → P l.phase) : ∀ l, y.loop = some l → P l.phase := by
  intro l running
  rw [loop, Option.map_eq_some_iff] at running
  obtain ⟨l, running, rfl⟩ := running
  exact phase l running (holds l running)

include law

theorem loopStep {now : Nat} {r : Bool × Session ω κ δ φ} (s : LoopStep b now x r)
    (holds : ∀ l, x.loop = some l → P l.phase) : ∀ l, r.2.loop = some l → P l.phase := by
  have waits : ∀ {time : Nat} {p : Appointment → Phase κ δ} {y : Session ω κ δ φ}, y.loop = x.loop →
      (∀ a, P (p a)) → ∀ l, (y.wait b now time p).loop = some l → P l.phase := by
    intro time p y same phase
    obtain ⟨awake, waits⟩ := wait_loop b now time p y
    rw [same] at waits
    exact goTo waits (fun _ _ _ => phase _) holds
  cases s with
  | stay => exact holds
  | block => exact goTo rfl (fun _ _ h => h) holds
  | stop => exact goTo (endLoop_loop ..) (fun _ _ _ => law.home rfl) holds
  | exchange loop free up went =>
    have kept := (pump_keeps b now x).2.1
    rw [went] at kept
    exact waits kept fun _ => law.home rfl
  | schedule loop free deciding => exact waits deciding.keeps.2.1 fun _ => law.backingOff ..
  | unplanned loop free deciding | giveUp loop free deciding =>
    refine goTo (g := fun l => { l with phase := .ended, awake := false }) ?_
      (fun _ _ _ => law.home rfl) holds
    rw [setPhase_loop, update_loop, deciding.keeps.2.1]
    rfl
  | rested => exact goTo rfl (fun _ _ _ => law.home rfl) holds
  | redial => exact goTo rfl (fun _ _ _ => law.dial ..) holds
  | dialOn loop polled =>
    have next := law.dialOn (holds _ loop) polled
    exact goTo (Option.map_map ..) (fun _ _ _ => next) holds
  | dialed loop polled =>
    have next := law.dialed (holds _ loop) polled
    exact goTo rfl (fun _ _ _ => next) holds
  | @record awake result loop =>
    cases result with
    | ok client => exact goTo rfl (fun _ _ _ => law.home rfl) holds
    | error e => exact waits rfl fun _ => law.home rfl

theorem callStep {now : Nat} {r : Bool × Session ω κ δ φ} (s : CallStep b now x r)
    (holds : ∀ l, x.loop = some l → P l.phase) : ∀ l, r.2.loop = some l → P l.phase := by
  cases s with
  | stay | join | leaveOn | left | dialOn => exact holds
  | leave call up held =>
    unfold sayGoodbye
    rw [up, held]
    exact holds
  | @clear goal => cases goal <;> simp [pursue, dialFor]
  | @dialed dial result =>
    cases result with
    | ok client =>
      rintro l ⟨⟩
      exact law.home rfl
    | error e => exact holds

theorem reachable (r : Reachable b x) : ∀ l, x.loop = some l → P l.phase := by
  have torn : ∀ {now goal} {x : Session ω κ δ φ}, (∀ l, x.loop = some l → P l.phase) →
      ∀ l, (x.tearDown b now goal).loop = some l → P l.phase := by
    intro now goal x holds
    unfold tearDown
    split
    · cases goal <;> exact holds
    · exact goTo rfl (fun _ _ h => h) holds
  induction r with
  | new => simp
  | @move x m r allowed ih =>
    cases m with
    | loop now => exact law.loopStep (Session.loopStep b now x) ih
    | call now => exact law.callStep (Session.callStep b now x) ih
    | connect now request handler =>
      change ∀ l, (x.connect b now request handler).loop = some l → _
      unfold connect
      split
      · exact ih
      · exact torn ih
    | disconnect now => exact torn ih
    | operate op =>
      rw [Move.run, (Session.operateStep b op x).loop]
      exact ih
    | outside | collect | rest => exact ih

end Attempts

end Session

/-! ## A broker that keeps records -/

namespace Ledger

variable {c : Client} {l : Ledger}

theorem sync_subscriptions (c : Client) (l : Ledger) : (sync c l).2.2.2.subscriptions = l.subscriptions := by
  unfold sync
  split
  · rfl
  · dsimp only
    split <;> rfl

theorem leave_subscriptions (c : Client) (l : Ledger) : (leave c l).2.subscriptions = l.subscriptions := by
  unfold leave
  split <;> rfl

theorem dial_subscriptions (settings : Settings) (plan : ConnectPlan) (handler : Option Handler)
    (l : Ledger) : (l.dial settings plan handler).2.subscriptions = l.subscriptions := by
  unfold dial
  dsimp only
  split
  · rfl
  · split <;> rfl

theorem spares : Spares backend Ledger.subscriptions where
  appoint _ _ := rfl
  pollDial _ _ _ := rfl
  hangUp _ _ := rfl
  sync _ := sync_subscriptions
  leave _ := leave_subscriptions
  pollLeave _ _ _ := rfl
  drop _ _ := rfl

/-- Whom the broker has accepted it grants everything. -/
theorem restoreAll_ready (ready : c.ready = .ok ()) (subscriptions : List (String × QoS)) :
    State.restoreAll backend subscriptions c l =
      (c, { l with subscriptions := l.subscriptions ++ subscriptions }) := by
  induction subscriptions generalizing l with
  | nil => simp [State.restoreAll]
  | cons s rest ih =>
    obtain ⟨topic, qos⟩ := s
    have granted : backend.subscribe topic qos c l =
        (.ok (), c, { l with subscriptions := l.subscriptions.push (topic, qos) }) := by
      simp [backend, subscribe, ready]
    unfold State.restoreAll
    rw [granted]
    dsimp only
    rw [ih]
    simp

/-- The client of an attempt is accepted as soon as there is one. -/
def Promising : Phase Client (Except SessionError Client) → Prop
  | .redialing (.ok c) | .redialed (.ok c) => c.ready = .ok ()
  | .redialing (.error _) | .redialed (.error _) | .cycling | .resting _ | .backingOff .. | .ended => True

theorem attempts : Session.Attempts backend Promising where
  home {p} home := by
    cases p with
    | cycling | resting | ended => trivial
    | backingOff | redialing | redialed => cases home
  backingOff _ _ _ := trivial
  dial now settings plan handler l := by
    change Promising (.redialing (l.dial settings plan handler).1)
    unfold dial
    dsimp only
    split
    · trivial
    · split
      · trivial
      · rfl
  dialOn _ polled := by cases polled
  dialed {now d w result w'} given polled := by
    cases polled
    cases d with
    | ok c => exact given
    | error e => trivial

/-! ## What it is asked to subscribe -/

variable {x : Session Ledger Client (Except SessionError Client) Client}

/-- What an operation with this result has subscribed. -/
def granted {ε : Type} : Operation → Except ε Unit → List (String × QoS)
  | .subscribe topic qos, .ok () => [(topic, qos)]
  | .subscribe .., .error _ | .publish .., _ | .unsubscribe _, _ => []

/-- What the broker is asked to subscribe by a move. -/
def issued (x : Session Ledger Client (Except SessionError Client) Client) :
    Session.Move Ledger → List (String × QoS)
  | .loop now => if Session.Reconnects backend now x then x.state.subscriptions else []
  | .operate op => granted op (x.operate backend op).1
  | .call _ | .connect .. | .disconnect _ | .outside _ | .collect | .rest => []

theorem granted_error {ε : Type} (op : Operation) (e : ε) : granted op (.error e) = [] := by
  cases op <;> rfl

theorem run_subscriptions (op : Operation) (c : Client) (l : Ledger) :
    (op.run backend c l).2.2.subscriptions.toList =
      l.subscriptions.toList ++ granted op (op.run backend c l).1 := by
  cases op with
  | publish message qos retain =>
    simp only [Operation.run, backend, publish, granted, List.append_nil]
    split <;> rfl
  | subscribe topic qos =>
    simp only [Operation.run, backend, subscribe]
    split
    · simp [granted]
    · simp [granted]
  | unsubscribe topic =>
    simp only [Operation.run, backend, unsubscribe, granted, List.append_nil]
    split <;> rfl

theorem subscriptions_loop (r : Session.Reachable backend x) (now : Nat) :
    (x.stepLoop backend now).2.outside.subscriptions.toList =
      x.outside.subscriptions.toList ++ issued x (.loop now) := by
  by_cases reconnects : Session.Reconnects backend now x
  · obtain ⟨c, awake, loop, went⟩ := reconnects.record r.inv
    have ready : c.ready = .ok () := attempts.reachable r _ loop
    rw [issued, if_pos reconnects, went]
    change (State.restoreAll backend x.state.subscriptions c x.outside).2.subscriptions.toList = _
    rw [restoreAll_ready ready]
    simp
  · rw [issued, if_neg reconnects, List.append_nil]
    refine congrArg Array.toList ?_
    rcases spares.loopStep (Session.loopStep backend now x) with same |
      ⟨time, plan, handler, awake, loop, free, went⟩ | ⟨c, awake, loop, went⟩
    · exact same
    · rw [went]
      change (Ledger.dial _ _ _ _).2.subscriptions = _
      rw [dial_subscriptions]
      exact spares.dropConnection _ _
    · exact absurd (r.inv.reconnects loop went) reconnects

theorem subscriptions_operate (op : Operation) :
    (x.operate backend op).2.outside.subscriptions.toList =
      x.outside.subscriptions.toList ++ issued x (.operate op) := by
  have worked := fun c => run_subscriptions op c x.outside
  have s := Session.operateStep backend op x
  rw [issued]
  generalize x.operate backend op = r at s
  cases s with
  | refuse e => rw [granted_error, List.append_nil]
  | @succeed c c' l up held ran =>
    have took := worked c
    rw [ran] at took
    refine took.trans (congrArg _ ?_)
    cases op <;> rfl
  | @«break» c c' l f up held ran broken =>
    have took := worked c
    rw [ran, granted_error] at took
    rw [granted_error]
    have lost := spares.markLost (.protocol f op.failure) (x.called c' l).state l
    exact (congrArg Array.toList lost).trans took
  | @fail c c' l f up held ran sound =>
    have took := worked c
    rw [ran, granted_error] at took
    rw [granted_error]
    exact took

theorem subscriptions_dialFor (now : Nat) (plan : ConnectPlan) (handler : Option Handler) :
    (x.dialFor backend now plan handler).outside.subscriptions = x.outside.subscriptions :=
  dial_subscriptions ..

/-- A broker is asked to subscribe by an operation or by a reconnect, and by nothing else. -/
theorem subscriptions_move (r : Session.Reachable backend x) {m : Session.Move Ledger}
    (inside : ∀ l, m ≠ .outside l) :
    (m.run backend x).outside.subscriptions.toList =
      x.outside.subscriptions.toList ++ issued x m := by
  have torn : ∀ now goal, (x.tearDown backend now goal).outside.subscriptions = x.outside.subscriptions := by
    intro now goal
    rcases Spares.tearDown (b := backend) (x := x) Ledger.subscriptions now goal with same |
      ⟨plan, handler, -, -, -, went⟩
    · exact same
    · rw [went]
      exact subscriptions_dialFor ..
  cases m with
  | loop now => exact subscriptions_loop r now
  | operate op => exact subscriptions_operate op
  | outside l => exact absurd rfl (inside l)
  | call now =>
    rw [issued, List.append_nil]
    refine congrArg Array.toList ?_
    change (x.stepCall backend now).2.outside.subscriptions = _
    rcases spares.callStep (Session.callStep backend now x) with same | ⟨plan, handler, call, past, went⟩
    · exact same
    · rw [went]
      exact (subscriptions_dialFor ..).trans (spares.reset _ _)
  | connect now request handler =>
    rw [issued, List.append_nil]
    refine congrArg Array.toList ?_
    change (x.connect backend now request handler).outside.subscriptions = _
    unfold Session.connect
    split
    · rfl
    · exact torn _ _
  | disconnect now =>
    rw [issued, List.append_nil]
    exact congrArg Array.toList (torn now .disconnect)
  | collect | rest => exact (List.append_nil _).symm

end Ledger

namespace Session

variable {b : Backend ω κ δ φ} {x y : Session ω κ δ φ}

/-- Since a connect a session remembers what its successful operations have made of an empty list, until
it has been torn down. A broker that keeps records is asked by a reconnect for just this list, by an
operation for what it subscribes, and by nothing else for anything, least of all by a connect. -/
theorem subscriptions_replay {asked : Bool} {done : List Operation} (connected : JustConnected b x)
    (since : Since b x asked done y) :
    (y.state.subscriptions = replay done ∨ asked = true ∧ y.state.subscriptions = []) ∧
    (y.state.subscriptions.map Prod.fst).Nodup ∧
    (∀ op e, (y.operate b op).1 = .error e →
      (y.operate b op).2.state.subscriptions = y.state.subscriptions) ∧
    (∀ {z₀ z} {asked : Bool} {done : List Operation}, JustConnected Ledger.backend z₀ →
      Since Ledger.backend z₀ asked done z → ∀ now, Reconnects Ledger.backend now z →
      (z.stepLoop Ledger.backend now).2.outside.subscriptions.toList =
        z.outside.subscriptions.toList ++ replay done) ∧
    ∀ {z} {m : Move Ledger}, Reachable Ledger.backend z → (∀ l, m ≠ .outside l) →
      (m.run Ledger.backend z).outside.subscriptions.toList =
        z.outside.subscriptions.toList ++ Ledger.issued z m := by
  have remembers := since.remembers connected
  have list : y.state.subscriptions = replay done ∨ asked = true ∧ y.state.subscriptions = [] := by
    cases remembers with
    | settled call loop list => exact .inl list
    | ending goal list => exact .inl list
    | ended call blank => exact .inr ⟨rfl, by rw [blank.state]⟩
    | dialing call list => exact .inr ⟨rfl, list⟩
  refine ⟨list, ?_, fun op e failed => ?_, fun connected since now reconnects => ?_,
    fun r inside => Ledger.subscriptions_move r inside⟩
  · rcases list with list | ⟨-, list⟩ <;> rw [list]
    · exact nodup_replay done
    · exact List.nodup_nil
  · rcases operate_remembers (b := b) (x := y) op with ⟨ok, -⟩ | ⟨-, -, kept⟩
    · rw [failed] at ok
      cases ok
    · exact kept
  · have r := since.reachable connected.reachable
    have list := (since.remembers connected).reconnects r.inv reconnects
    rw [Ledger.subscriptions_loop r, Ledger.issued, if_pos reconnects, list]

/-- A connect, four operations of which one fails, and a loss. Then the loop reconnects. -/
theorem subscriptions_replay_lost :
    ∃ (x y : Session Ledger Ledger.Client (Except SessionError Ledger.Client) Ledger.Client)
      (done : List Operation),
      JustConnected Ledger.backend x ∧ Since Ledger.backend x false done y ∧
      y.state.subscriptions = [("a", .exactlyOnce), ("b", .atLeastOnce)] ∧
      y.outside.subscriptions = #[("a", .atMostOnce), ("b", .atLeastOnce), ("a", .exactlyOnce)] ∧
      Reconnects Ledger.backend 1000 y ∧ y.state.subscriptions = replay done ∧
      (y.stepLoop Ledger.backend 1000).2.outside.subscriptions.toList =
        y.outside.subscriptions.toList ++ replay done := by
  have r := Reachable.new (b := Ledger.backend) {} { pendingDrop := some .connectionClosed }
  have r := r.move (m := .connect 0 { host := "h" } none) rfl
  have connected : JustConnected Ledger.backend (stepCall Ledger.backend 0 _).2 := .intro r rfl rfl
  have begins : ∀ {x}, JustConnected Ledger.backend x → Since Ledger.backend x false [] x :=
    fun _ => .start
  have s := begins connected
  have s := s.move (m := .operate (.subscribe "a" .atMostOnce)) rfl rfl
  have s := s.move (m := .operate (.subscribe "b" .atLeastOnce)) rfl rfl
  have s := s.move (m := .operate (.subscribe "" .atLeastOnce)) rfl rfl
  have s := s.move (m := .operate (.subscribe "a" .exactlyOnce)) rfl rfl
  have s := s.move (m := .loop 0) trivial rfl
  have s := s.move (m := .loop 1000) trivial rfl
  have s := s.move (m := .loop 1000) trivial rfl
  obtain ⟨list, -, -, appended, -⟩ := subscriptions_replay connected s
  have list := list.resolve_right fun ended => absurd ended.1 (by decide)
  have appended := appended connected s 1000
  exact ⟨_, _, _, connected, s, by decide, by decide, by decide, list, appended (by decide)⟩

end Session

end MqttLink
