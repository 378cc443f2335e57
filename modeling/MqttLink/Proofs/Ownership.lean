import Mathlib.Order.BooleanAlgebra.Set
import MqttLink.Lines.Basic
import MqttLink.Proofs.Coherence

/-!
# Who holds the streams

A session holds streams through its client, through an attempt under way and through a farewell. Main
statement: no step of a session loses one. What is open and not held any more was not held before
either.
-/

namespace MqttLink

variable {ω κ δ φ : Type}

/-- The streams of a backend, by their numbers. An operation opens nothing but what its result holds,
and what its argument held and its result does not hold is closed. -/
structure Streams (b : Backend ω κ δ φ) where
  isOpen : ω → Set Nat
  ofClient : κ → Set Nat
  ofDial : δ → Set Nat
  ofFarewell : φ → Set Nat
  appoint : ∀ time w, isOpen (b.appoint time w).2 ⊆ isOpen w
  dial : ∀ {now settings plan handler w d w'}, b.dial now settings plan handler w = (d, w') →
    isOpen w' \ ofDial d ⊆ isOpen w
  dialOn : ∀ {now d w d' w'}, b.pollDial now d w = (.waiting d', w') →
    isOpen w' \ ofDial d' ⊆ isOpen w \ ofDial d
  dialed : ∀ {now d w client w'}, b.pollDial now d w = (.done (.ok client), w') →
    isOpen w' \ ofClient client ⊆ isOpen w \ ofDial d
  refused : ∀ {now d w e w'}, b.pollDial now d w = (.done (.error e), w') →
    isOpen w' ⊆ isOpen w \ ofDial d
  hangUp : ∀ d w, isOpen (b.hangUp d w) ⊆ isOpen w \ ofDial d
  operate : ∀ (op : Operation) {client w result client' w'},
    op.run b client w = (result, client', w') →
    isOpen w' \ ofClient client' ⊆ isOpen w \ ofClient client
  sync : ∀ {now client w result messages client' w'},
    b.sync now client w = (result, messages, client', w') →
    isOpen w' \ ofClient client' ⊆ isOpen w \ ofClient client
  leave : ∀ {now client w f w'}, b.leave now client w = (f, w') →
    isOpen w' \ ofFarewell f ⊆ isOpen w \ ofClient client
  leaveOn : ∀ {now f w f' w'}, b.pollLeave now f w = (.waiting f', w') →
    isOpen w' \ ofFarewell f' ⊆ isOpen w \ ofFarewell f
  left : ∀ {now f w client w'}, b.pollLeave now f w = (.done client, w') →
    isOpen w' \ ofClient client ⊆ isOpen w \ ofFarewell f
  drop : ∀ client w, isOpen (b.drop client w) ⊆ isOpen w \ ofClient client

namespace Streams

variable {b : Backend ω κ δ φ} (S : Streams b)

/-! ## What a session holds -/

def ofState (s : State κ) : Set Nat := s.client.elim ∅ S.ofClient

def ofPhase : Phase κ δ → Set Nat
  | .redialing dial => S.ofDial dial
  | .redialed (.ok client) => S.ofClient client
  | .redialed (.error _) | .cycling | .resting _ | .backingOff .. | .ended => ∅

def ofLoop (loop : Option (Loop κ δ)) : Set Nat := loop.elim ∅ fun l => S.ofPhase l.phase

def ofCall : Call δ φ → Set Nat
  | .leaving _ farewell => S.ofFarewell farewell
  | .dialing dial => S.ofDial dial
  | .idle | .stopping _ | .joining _ | .finished _ => ∅

def held (x : Session ω κ δ φ) : Set Nat := S.ofState x.state ∪ S.ofLoop x.loop ∪ S.ofCall x.call

/-- What is open and held by nobody. -/
def loose (x : Session ω κ δ φ) : Set Nat := S.isOpen x.outside \ S.held x

variable {S} {x y : Session ω κ δ φ}

/-- `given` is what was held in one place and `taken` is what is held there now. -/
theorem loose_of {given taken : Set Nat}
    (law : S.isOpen y.outside \ taken ⊆ S.isOpen x.outside \ given)
    (kept : S.held x ⊆ given ∪ S.held y) (holds : taken ⊆ S.held y) : S.loose y ⊆ S.loose x := by
  rintro n ⟨isOpen, free⟩
  obtain ⟨wasOpen, notGiven⟩ := law ⟨isOpen, fun mem => free (holds mem)⟩
  exact ⟨wasOpen, fun mem => (kept mem).elim notGiven free⟩

theorem loose_of_subset (outside : S.isOpen y.outside ⊆ S.isOpen x.outside)
    (held : S.held x ⊆ S.held y) : S.loose y ⊆ S.loose x :=
  Set.sdiff_subset_sdiff outside held

/-! ## The record -/

theorem isOpen_dropConnection (s : State κ) (w : ω) :
    S.isOpen (s.dropConnection b w).2 ⊆ S.isOpen w \ S.ofState s := by
  unfold State.dropConnection ofState
  split
  · rename_i none_
    simp [none_]
  · rename_i client held
    simpa [held] using S.drop client w

/-- The record changes, and lets go of its client. -/
theorem loose_act {f : State κ → ω → State κ × ω}
    (closed : (f x.state x.outside).2 = (x.state.dropConnection b x.outside).2) :
    S.loose (x.act f) ⊆ S.loose x := by
  have law : S.isOpen (x.act f).outside \ ∅ ⊆ S.isOpen x.outside \ S.ofState x.state := by
    rw [Set.sdiff_empty, Session.act_outside, closed]
    exact isOpen_dropConnection _ _
  refine loose_of law ?_ (Set.empty_subset _)
  · rintro n ((mem | mem) | mem)
    · exact .inl mem
    · exact .inr (.inl (.inr mem))
    · exact .inr (.inr mem)

theorem loose_dropConnection : S.loose (x.act (State.dropConnection b)) ⊆ S.loose x := loose_act rfl

theorem loose_markLost (e : SessionError) : S.loose (x.act (State.markLost b e)) ⊆ S.loose x := by
  apply loose_act
  unfold State.markLost State.dropConnection
  dsimp only [State.recordError, State.notify]
  split <;> rfl

theorem loose_abandon (e : SessionError) : S.loose (x.act (State.abandon b e)) ⊆ S.loose x := by
  apply loose_act
  unfold State.abandon State.dropConnection
  dsimp only [State.recordError, State.notify]
  split <;> rfl

theorem loose_reset : S.loose (x.act (State.reset b)) ⊆ S.loose x := loose_act rfl

theorem loose_update {f : State κ → State κ} (kept : (f x.state).client = x.state.client) :
    S.loose (x.update f) = S.loose x := by
  simp [loose, held, ofState, kept]

/-- The client of the record has worked. -/
theorem loose_called {client client' : κ} {w : ω} (held : x.state.client = some client)
    (law : S.isOpen w \ S.ofClient client' ⊆ S.isOpen x.outside \ S.ofClient client) :
    S.loose (x.called client' w) ⊆ S.loose x := by
  refine loose_of law ?_ ?_
  · rintro n ((mem | mem) | mem)
    · exact .inl (by simpa [ofState, held] using mem)
    · exact .inr (.inl (.inr mem))
    · exact .inr (.inr mem)
  · exact fun n mem => .inl (.inl mem)

theorem isOpen_restoreAll (subscriptions : List (String × QoS)) (client : κ) (w : ω) :
    S.isOpen (State.restoreAll b subscriptions client w).2 \
        S.ofClient (State.restoreAll b subscriptions client w).1 ⊆
      S.isOpen w \ S.ofClient client := by
  induction subscriptions generalizing client w with
  | nil => exact subset_rfl
  | cons s rest ih =>
    obtain ⟨topic, qos⟩ := s
    unfold State.restoreAll
    split
    · rename_i client' w' subscribed
      exact (ih client' w').trans (S.operate (.subscribe topic qos) subscribed)
    · rename_i failed
      exact S.operate (.subscribe topic qos) failed

/-! ## The loop -/

theorem loose_setPhase (p : Phase κ δ) (nothing : S.ofLoop x.loop = ∅) :
    S.loose (x.setPhase p) ⊆ S.loose x := by
  refine loose_of_subset (Set.Subset.refl _) ?_
  rintro n ((mem | mem) | mem)
  · exact .inl (.inl mem)
  · simp [nothing] at mem
  · exact .inr mem

theorem loose_wait (now time : Nat) (p : Appointment → Phase κ δ) (nothing : S.ofLoop x.loop = ∅) :
    S.loose (x.wait b now time p) ⊆ S.loose x := by
  apply loose_of_subset
  · unfold Session.wait Session.goOn
    dsimp only
    split <;> exact S.appoint _ _
  · rintro n ((mem | mem) | mem)
    · exact .inl (.inl (by rwa [Session.wait_state]))
    · simp [nothing] at mem
    · exact .inr (by rwa [Session.wait_call])

theorem loose_pump (now : Nat) : S.loose (x.pump b now).2 ⊆ S.loose x := by
  unfold Session.pump
  split
  · exact subset_rfl
  · rename_i client held
    rcases synced : b.sync now client x.outside with ⟨result, messages, client', w⟩
    have called := loose_called held (S.sync synced)
    dsimp only
    split <;> exact called

theorem loose_deciding {now : Nat} (d : Session.Deciding b now x y) : S.loose y ⊆ S.loose x := by
  cases d with
  | down => exact subset_rfl
  | lost up failed =>
    have pumped := loose_pump (S := S) (x := x) now
    rw [failed] at pumped
    exact (loose_markLost _).trans pumped

theorem loose_block : S.loose x.block = S.loose x := by
  unfold loose held
  rw [Session.block_loop]
  cases x.loop <;> rfl

/-- The loop goes somewhere else, and the outside has changed on its way. -/
theorem loose_goTo {w : ω} {p : Phase κ δ} {l : Loop κ δ} (running : x.loop = some l)
    (law : S.isOpen w \ S.ofPhase p ⊆ S.isOpen x.outside \ S.ofPhase l.phase) :
    S.loose ({ x with outside := w }.setPhase p) ⊆ S.loose x := by
  refine loose_of law ?_ ?_
  · rintro n ((mem | mem) | mem)
    · exact .inr (.inl (.inl mem))
    · exact .inl (by simpa [ofLoop, running] using mem)
    · exact .inr (.inr mem)
  · intro n mem
    exact .inl (.inr (by simpa [ofLoop, running] using mem))

theorem loose_endLoop {l : Loop κ δ} (running : x.loop = some l) :
    S.loose (x.endLoop b l.phase) ⊆ S.loose x := by
  unfold Session.endLoop
  split
  · rename_i dial phase
    exact loose_goTo running (by rw [phase]; exact Set.sdiff_subset.trans (S.hangUp dial _))
  · rename_i client phase
    exact loose_goTo running (by rw [phase]; exact Set.sdiff_subset.trans (S.drop client _))
  · rename_i notDialing notConnected
    apply loose_setPhase
    simp only [ofLoop, running, Option.elim_some]
    cases phase : l.phase with
    | redialing dial => exact absurd phase (notDialing dial)
    | redialed result =>
      cases result with
      | ok client => exact absurd phase (notConnected client)
      | error e => rfl
    | cycling | resting | backingOff | ended => rfl

theorem loose_loopStep {now : Nat} {r : Bool × Session ω κ δ φ} (inv : Session.Inv x)
    (s : Session.LoopStep b now x r) : S.loose r.2 ⊆ S.loose x := by
  cases s with
  | stay => exact subset_rfl
  | block => exact loose_block.subset
  | stop running stopping alive => exact loose_endLoop running
  | @exchange awake y loop free up went =>
    have pumped := loose_pump (S := S) (x := x) now
    have kept := Session.pump_keeps b now x
    rw [went] at pumped kept
    refine (loose_wait _ _ _ ?_).trans pumped
    rw [kept.2.1, loop]
    rfl
  | @schedule awake y attempt delay plan loop free deciding decided planned =>
    refine (loose_wait _ _ _ ?_).trans ?_
    · rw [Session.update_loop, deciding.keeps.2.1, loop]
      rfl
    · rw [loose_update rfl]
      exact loose_deciding deciding
  | @unplanned awake y loop free deciding unplanned =>
    refine (loose_setPhase _ ?_).trans ?_
    · rw [Session.update_loop, deciding.keeps.2.1, loop]
      rfl
    · rw [loose_update rfl]
      exact loose_deciding deciding
  | @giveUp awake y loop free deciding decided =>
    refine (loose_setPhase _ ?_).trans ?_
    · rw [Session.update_loop, deciding.keeps.2.1, loop]
      rfl
    · rw [loose_update rfl]
      exact loose_deciding deciding
  | rested loop due => exact loose_setPhase _ (by rw [loop]; rfl)
  | @redial awake time plan handler loop due free =>
    refine Set.Subset.trans (loose_goTo loop ?_) ((loose_update rfl).subset.trans loose_dropConnection)
    simpa [ofPhase] using S.dial rfl
  | dialOn loop polled => exact loose_block.subset.trans (loose_goTo loop (S.dialOn polled))
  | @dialed awake dial result w loop polled =>
    apply loose_goTo loop
    cases result with
    | ok client => exact S.dialed polled
    | error e => exact Set.sdiff_subset.trans (S.refused polled)
  | @record awake result loop free =>
    cases result with
    | ok client =>
      -- The client moves from the loop to the record, and there was none in the record before.
      have down := inv.client_none (Call.not_leaving free) (inv.away _ loop rfl)
      refine loose_of (isOpen_restoreAll x.state.subscriptions client x.outside) ?_ ?_
      · rintro n ((mem | mem) | mem)
        · simp [ofState, down] at mem
        · rw [loop] at mem
          exact .inl mem
        · exact .inr (.inr mem)
      · exact fun n mem => .inl (.inl mem)
    | error e =>
      refine (loose_wait _ _ _ ?_).trans ?_
      · rw [Session.update_loop, loop]
        rfl
      · rw [loose_update rfl]

/-! ## The caller -/

/-- The caller's operation goes on, and the outside has changed on its way. -/
theorem loose_callTo {w : ω} {call : Call δ φ}
    (law : S.isOpen w \ S.ofCall call ⊆ S.isOpen x.outside \ S.ofCall x.call) :
    S.loose { x with outside := w, call } ⊆ S.loose x := by
  refine loose_of law ?_ ?_
  · rintro n ((mem | mem) | mem)
    · exact .inr (.inl (.inl mem))
    · exact .inr (.inl (.inr mem))
    · exact .inl mem
  · exact fun n mem => .inr mem

theorem ofCall_of_isOver (past : x.call.isOver = true) : S.ofCall x.call = ∅ := by
  cases h : x.call <;> simp_all [Call.isOver, ofCall]

/-- An operation that holds nothing goes on to anything that holds nothing yet. -/
theorem loose_setCall {call : Call δ φ} (nothing : S.ofCall x.call = ∅) :
    S.loose { x with call } ⊆ S.loose x :=
  loose_callTo (by rw [nothing, Set.sdiff_empty]; exact Set.sdiff_subset)

theorem loose_pursue (now : Nat) (goal : Goal) (nothing : S.ofCall x.call = ∅) :
    S.loose (x.pursue b now goal) ⊆ S.loose x := by
  cases goal with
  | disconnect => exact loose_setCall nothing
  | connect plan handler =>
    refine Set.Subset.trans (b := S.loose (x.update (State.begin b plan handler))) ?_
      (loose_update rfl).subset
    apply loose_callTo
    rw [Session.update_call, nothing, Set.sdiff_empty]
    exact S.dial rfl

theorem loose_tearDown (now : Nat) (goal : Goal) (nothing : S.ofCall x.call = ∅) :
    S.loose (x.tearDown b now goal) ⊆ S.loose x := by
  unfold Session.tearDown
  split
  · exact loose_pursue now goal nothing
  · refine loose_of_subset (Set.Subset.refl _) ?_
    rintro n ((mem | mem) | mem)
    · exact .inl (.inl mem)
    · have same : ∀ loop : Option (Loop κ δ),
          S.ofLoop (loop.map fun l => { l with stopping := true }) = S.ofLoop loop := by
        rintro (_ | l) <;> rfl
      exact .inl (.inr (by rwa [same]))
    · simp [nothing] at mem

theorem loose_callStep {now : Nat} {r : Bool × Session ω κ δ φ} (inv : Session.Inv x)
    (s : Session.CallStep b now x r) : S.loose r.2 ⊆ S.loose x := by
  cases s with
  | stay => exact subset_rfl
  | @leave goal client call up held =>
    unfold Session.sayGoodbye
    rw [up, held]
    -- The client moves from the record to the farewell.
    refine loose_of (S.leave rfl) ?_ ?_
    · rintro n ((mem | mem) | mem)
      · exact .inl (by simpa [ofState, held] using mem)
      · exact .inr (.inl (.inr mem))
      · simp [ofCall, call] at mem
    · exact fun n mem => .inr mem
  | join call down => exact loose_setCall (by rw [call]; rfl)
  | leaveOn call polled =>
    apply loose_callTo
    rw [call]
    exact S.leaveOn polled
  | @left goal farewell client w call polled =>
    -- It moves back, and nobody has put another one there meanwhile.
    have none_ := (inv.leaving (by simp [call, Call.isLeaving])).1
    refine loose_of (S.left polled) ?_ ?_
    · rintro n ((mem | mem) | mem)
      · simp [ofState, none_] at mem
      · exact .inr (.inl (.inr mem))
      · rw [call] at mem
        exact .inl mem
    · exact fun n mem => .inl (.inl mem)
  | @clear goal call past =>
    -- A loop that has ended holds nothing that could be lost with it.
    have empty : S.ofLoop x.loop = ∅ := by
      cases loop : x.loop with
      | none => rfl
      | some l => simp [ofLoop, ofPhase, past l loop]
    refine (loose_pursue now goal (by rw [Session.act_call, call]; rfl)).trans (loose_reset.trans ?_)
    refine loose_of_subset (Set.Subset.refl _) ?_
    rintro n ((mem | mem) | mem)
    · exact .inl (.inl mem)
    · simp [empty] at mem
    · exact .inr mem
  | dialOn call polled =>
    apply loose_callTo
    rw [call]
    exact S.dialOn polled
  | @dialed dial result w call polled =>
    cases result with
    | ok client =>
      have none_ : x.state.client = none :=
        inv.client_none (by simp [call, Call.isLeaving]) (by simp [(inv.dialing dial call).2.1])
      refine loose_of (S.dialed polled) ?_ ?_
      · rintro n ((mem | mem) | mem)
        · simp [ofState, none_] at mem
        · simp [ofLoop, (inv.dialing dial call).1] at mem
        · rw [call] at mem
          exact .inl mem
      · exact fun n mem => .inl (.inl mem)
    | error e =>
      refine (loose_abandon (x := { x with outside := w, call := .finished (.error e) }) e).trans ?_
      apply loose_callTo
      rw [call]
      exact Set.sdiff_subset.trans (S.refused polled)

/-! ## Every move -/

theorem loose_operateStep {op : Operation} {r : Except SessionError Unit × Session ω κ δ φ}
    (s : Session.OperateStep b op x r) : S.loose r.2 ⊆ S.loose x := by
  cases s with
  | refuse => exact subset_rfl
  | succeed up held ran => exact (loose_update rfl).subset.trans (loose_called held (S.operate op ran))
  | «break» up held ran broken => exact (loose_markLost _).trans (loose_called held (S.operate op ran))
  | fail up held ran sound => exact (loose_update rfl).subset.trans (loose_called held (S.operate op ran))

variable (S) in
/-- What happens outside by itself opens no stream. -/
def Closed (x : Session ω κ δ φ) : Session.Move ω → Prop
  | .outside w => S.isOpen w ⊆ S.isOpen x.outside
  | .loop _ | .call _ | .connect .. | .disconnect _ | .operate _ | .collect | .rest => True

theorem loose_move {m : Session.Move ω} (inv : Session.Inv x) (allowed : m.Allowed x)
    (closed : S.Closed x m) : S.loose (m.run b x) ⊆ S.loose x := by
  cases m with
  | loop now => exact loose_loopStep inv (Session.loopStep b now x)
  | call now => exact loose_callStep inv (Session.callStep b now x)
  | connect now request handler =>
    change S.loose (x.connect b now request handler) ⊆ _
    unfold Session.connect
    split
    · exact loose_setCall (ofCall_of_isOver allowed)
    · exact loose_tearDown now _ (ofCall_of_isOver allowed)
  | disconnect now => exact loose_tearDown now _ (ofCall_of_isOver allowed)
  | operate op => exact loose_operateStep (Session.operateStep b op x)
  | outside w => exact loose_of_subset closed (Set.Subset.refl _)
  | collect => exact Set.Subset.refl _
  | rest => exact loose_setCall (ofCall_of_isOver allowed)

/-! ## Runs -/

/-- The runs from `x` on which nobody makes another move than it may. -/
inductive Run (S : Streams b) (may : Session ω κ δ φ → Session.Move ω → Prop)
    (x : Session ω κ δ φ) : Session ω κ δ φ → Prop
  | start : Run S may x x
  | move {y : Session ω κ δ φ} {m : Session.Move ω} (run : Run S may x y) (allowed : m.Allowed y)
      (closed : S.Closed y m) (granted : may y m) : Run S may x (m.run b y)

variable {may : Session ω κ δ φ → Session.Move ω → Prop}

theorem Run.reachable (run : S.Run may x y) (r : Session.Reachable b x) : Session.Reachable b y := by
  induction run with
  | start => exact r
  | move run allowed closed granted ih => exact ih.move allowed

/-- What is open and not held was open and not held before. -/
theorem Run.loose (run : S.Run may x y) (r : Session.Reachable b x) : S.loose y ⊆ S.loose x := by
  induction run with
  | start => exact Set.Subset.refl _
  | move run allowed closed granted ih => exact (loose_move (run.reachable r).inv allowed closed).trans ih

end Streams

/-! ## Lines -/

namespace Lines

variable {ls : Lines} {socket n : Nat}

/-- The links that no client has let go of. -/
def open_ (ls : Lines) : Set Nat := {n | ∃ l, ls.links[n]? = some l ∧ l.closed = false}

theorem open_change (f : Link → Link) :
    (ls.change socket f).open_ \ {socket} ⊆ ls.open_ \ {socket} := by
  rintro n ⟨⟨l, found, isOpen⟩, other⟩
  simp only [change, Array.getElem?_modify] at found
  rw [if_neg (Ne.symm other)] at found
  exact ⟨⟨l, found, isOpen⟩, other⟩

theorem open_close : (ls.close socket).open_ ⊆ ls.open_ \ {socket} := by
  intro n isOpen
  refine open_change _ ⟨isOpen, ?_⟩
  rintro rfl
  obtain ⟨l, found, isOpen⟩ := isOpen
  simp only [close, change, Array.getElem?_modify, if_true, Option.map_eq_some_iff] at found
  obtain ⟨l', -, rfl⟩ := found
  simp at isOpen

theorem onLink_spec {α : Type} {work : MqttLink.Client → Link → α × MqttLink.Client × Link}
    {s s' : Speaker} {result : α} {ls' : Lines} (worked : onLink work s ls = (result, s', ls')) :
    s'.socket = s.socket ∧ ls'.open_ \ {s.socket} ⊆ ls.open_ \ {s.socket} := by
  simp only [onLink, Prod.mk.injEq] at worked
  obtain ⟨-, rfl, rfl⟩ := worked
  exact ⟨rfl, (open_change _).trans (open_change _)⟩

def ofDial : Dial → Set Nat
  | .shaking _ _ s => {s.socket}
  | .ringing .. | .unanswered .. | .failed _ | .stranded => ∅

def ofProgress : Progress Dial (Except SessionError Speaker) → Set Nat
  | .waiting d => ofDial d
  | .done (.ok s) => {s.socket}
  | .done (.error _) => ∅

theorem open_pickUp (now : Nat) (acts : List Act) (settings : Settings) (plan : ConnectPlan)
    (handler : Option Handler) (ls : Lines) :
    (ls.pickUp now acts settings plan handler).2.open_ \
      ofDial (ls.pickUp now acts settings plan handler).1 ⊆ ls.open_ := by
  have pushed : ∀ l, ({ ls with links := ls.links.push l } : Lines).open_ \ {ls.links.size} ⊆ ls.open_ := by
    rintro l n ⟨⟨l', found, isOpen⟩, old⟩
    rw [Array.getElem?_push, if_neg (by exact old)] at found
    exact ⟨l', found, isOpen⟩
  unfold pickUp
  dsimp only
  split
  · exact pushed _
  · exact Set.sdiff_subset.trans (open_close.trans (pushed _))
  · exact Set.sdiff_subset.trans (open_close.trans (pushed _))

theorem open_pollShaking (now : Nat) (h : Handshake) (number : Option Nat) (s : Speaker) :
    (pollShaking now h number s ls).2.open_ \ ofProgress (pollShaking now h number s ls).1 ⊆
      ls.open_ \ {s.socket} := by
  unfold pollShaking
  split
  · rename_i h' s' ls' worked
    obtain ⟨same, law⟩ := onLink_spec worked
    rw [← same] at law ⊢
    split <;> exact law
  · rename_i s' ls' worked
    obtain ⟨same, law⟩ := onLink_spec worked
    rw [← same] at law ⊢
    exact law
  · rename_i f s' ls' worked
    obtain ⟨same, law⟩ := onLink_spec worked
    rw [← same] at law ⊢
    exact Set.sdiff_subset.trans (open_close.trans law)

theorem open_takeAnswer (now : Nat) (answer : Answer) (settings : Settings) (plan : ConnectPlan)
    (handler : Option Handler) :
    (ls.takeAnswer now answer settings plan handler).2.open_ \
      ofProgress (ls.takeAnswer now answer settings plan handler).1 ⊆ ls.open_ := by
  unfold takeAnswer
  split
  · exact Set.sdiff_subset
  · exact Set.sdiff_subset
  · rename_i acts
    have picked := open_pickUp now acts settings plan handler ls
    split
    · rename_i e ls' failed
      rw [failed] at picked
      exact picked
    · rename_i h number s ls' shaking
      rw [shaking] at picked
      exact (open_pollShaking now h number s).trans picked
    · rename_i d ls' failing shaking
      rw [shaking] at picked
      exact picked

theorem open_pollDial (now : Nat) (d : Dial) (ls : Lines) :
    (ls.pollDial now d).2.open_ \ ofProgress (ls.pollDial now d).1 ⊆ ls.open_ \ ofDial d := by
  unfold pollDial
  split
  · exact Set.sdiff_subset.trans (by simp [ofDial])
  · exact Set.Subset.refl _
  · exact open_pollShaking now _ _ _
  · rename_i time answer settings plan handler
    rw [ofDial, Set.sdiff_empty]
    split
    · exact Set.sdiff_subset
    · exact open_takeAnswer now answer settings plan handler
  · rename_i settings plan handler
    rw [ofDial, Set.sdiff_empty]
    split
    · exact Set.sdiff_subset
    · exact open_takeAnswer now _ settings plan handler

theorem open_polled {now : Nat} {d : Dial} {r : Progress Dial (Except SessionError Speaker)}
    {ls' : Lines} (polled : ls.pollDial now d = (r, ls')) :
    ls'.open_ \ ofProgress r ⊆ ls.open_ \ ofDial d := by
  have law := open_pollDial now d ls
  rwa [polled] at law

theorem queueing_spec (op : MqttLink.Client → Except Fault Unit × MqttLink.Client) {s s' : Speaker}
    {result : Except Fault Unit} {ls' : Lines} (ran : queueing op s ls = (result, s', ls')) :
    s'.socket = s.socket ∧ ls' = ls := by
  cases ran
  exact ⟨rfl, rfl⟩

theorem sync_spec {now : Nat} {s s' : Speaker} {result : Except Fault Unit}
    {messages : List (Handler × Message)} {ls' : Lines}
    (synced : sync now s ls = (result, messages, s', ls')) :
    s'.socket = s.socket ∧ ls'.open_ \ {s.socket} ⊆ ls.open_ \ {s.socket} := by
  rcases worked : onLink (fun c l => c.sync now l) s ls with ⟨result', s1, ls1⟩
  simp only [sync, worked, Prod.mk.injEq] at synced
  obtain ⟨-, -, rfl, rfl⟩ := synced
  obtain ⟨same, law⟩ := onLink_spec worked
  exact ⟨same, law⟩

theorem leave_spec {now : Nat} {s : Speaker} {x : Leave} {ls' : Lines} (left : leave now s ls = (x, ls')) :
    x.speaker.socket = s.socket ∧ ls' = ls := by
  unfold leave at left
  split at left <;> cases left <;> exact ⟨rfl, rfl⟩

def ofLeaving : Progress Leave Speaker → Set Nat
  | .waiting x => {x.speaker.socket}
  | .done s => {s.socket}

theorem pollLeave_spec {now : Nat} {x : Leave} {r : Progress Leave Speaker} {ls' : Lines}
    (polled : pollLeave now x ls = (r, ls')) :
    ls'.open_ \ ofLeaving r ⊆ ls.open_ \ {x.speaker.socket} := by
  unfold pollLeave at polled
  split at polled
  · cases polled
    exact Set.Subset.refl _
  · split at polled <;>
    · rename_i worked
      obtain ⟨same, law⟩ := onLink_spec worked
      cases polled
      rw [← same] at law ⊢
      exact law

/-- The streams of lines are their links, and a client speaks on one of them. -/
def streams : Streams backend where
  isOpen := open_
  ofClient s := {s.socket}
  ofDial := ofDial
  ofFarewell x := {x.speaker.socket}
  appoint _ _ := Set.Subset.refl _
  dial h := by
    cases h
    exact Set.sdiff_subset
  dialOn h := open_polled h
  dialed h := open_polled h
  refused h := by
    have law := open_polled h
    rwa [ofProgress, Set.sdiff_empty] at law
  hangUp d ls := by
    cases d with
    | shaking h number s => exact open_close
    | ringing | unanswered | failed | stranded => exact (Set.sdiff_empty).ge
  operate op {client w result client' w'} h := by
    obtain ⟨same, rfl⟩ : client'.socket = client.socket ∧ w' = w := by
      cases op with
      | publish message qos retain => exact queueing_spec (MqttLink.Client.publish message qos retain) h
      | subscribe topic qos => exact queueing_spec (MqttLink.Client.subscribe topic qos) h
      | unsubscribe topic => exact queueing_spec (MqttLink.Client.unsubscribe topic) h
    rw [same]
  sync h := by
    obtain ⟨same, law⟩ := sync_spec h
    rwa [same]
  leave h := by
    obtain ⟨same, rfl⟩ := leave_spec h
    rw [same]
  leaveOn h := pollLeave_spec h
  left h := pollLeave_spec h
  drop s ls := open_close

end Lines

end MqttLink
