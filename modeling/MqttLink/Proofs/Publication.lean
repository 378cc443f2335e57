import MqttLink.Proofs.Faults
import MqttLink.Proofs.Subscriptions

/-!
# What others see of a session

Whatever changes the record publishes it. One change is published a moment later: subscribing again may
break a new client, and the cycle to which the loop goes straight on says so. Main statement: what is seen
of a session is what is on record, unless somebody cuts in just there.
-/

namespace MqttLink

variable {ω κ δ φ : Type}

/-- Only an operation that fails breaks its client. -/
def Candid (b : Backend ω κ δ φ) : Prop :=
  ∀ (op : Operation) {client w client' w'}, op.run b client w = (.ok (), client', w') →
    b.fault client' = b.fault client

/-! ## The record -/

namespace State

variable (b : Backend ω κ δ φ)

/-- What is published is what is on record. -/
def Told (s : State κ) : Prop := s.published = s.snapshot b

theorem told_notify (s : State κ) : (s.notify b).Told b := rfl

theorem told_setStatus (status : Status) (s : State κ) : (s.setStatus b status).Told b := rfl

theorem told_recordError (e : SessionError) (s : State κ) : (s.recordError b e).Told b := rfl

theorem told_install (client : κ) (s : State κ) : (s.install b client).Told b := rfl

theorem told_markLost (e : SessionError) (s : State κ) (w : ω) : (s.markLost b e w).1.Told b := by
  rw [markLost_fst]
  rfl

theorem told_abandon (e : SessionError) (s : State κ) (w : ω) : (s.abandon b e w).1.Told b := by
  rw [abandon_fst]
  rfl

theorem told_reset (s : State κ) (w : ω) : (s.reset b w).1.Told b := by
  rw [reset_fst]
  rfl

variable {b}

/-- A client that works changes nothing that is published unless it breaks. -/
theorem Told.called {s : State κ} (told : s.Told b) {client client' : κ} (held : s.client = some client)
    (sound : b.fault client' = b.fault client) : State.Told b { s with client := some client' } := by
  have same : ({ s with client := some client' } : State κ).snapshot b = s.snapshot b := by
    simp [State.snapshot, held, sound]
  exact told.trans same.symm

/-- A client takes every subscription. -/
def Restores (b : Backend ω κ δ φ) : List (String × QoS) → κ → ω → Prop
  | [], _, _ => True
  | (topic, qos) :: rest, client, w =>
    match b.subscribe topic qos client w with
    | (.ok (), client, w) => Restores b rest client w
    | (.error _, _, _) => False

theorem restoreAll_fault (candid : Candid b) {subscriptions : List (String × QoS)} {client : κ} {w : ω}
    (restores : Restores b subscriptions client w) :
    b.fault (restoreAll b subscriptions client w).1 = b.fault client := by
  induction subscriptions generalizing client w with
  | nil => rfl
  | cons first rest ih =>
    obtain ⟨topic, qos⟩ := first
    rcases ran : b.subscribe topic qos client w with ⟨result, client', w'⟩
    cases result with
    | ok =>
      simp only [Restores, ran] at restores
      simp only [restoreAll, ran]
      exact (ih restores).trans (candid (.subscribe topic qos) ran)
    | error =>
      simp only [Restores, ran] at restores

end State

/-! ## The loop -/

namespace Session

variable {b : Backend ω κ δ φ} {x y : Session ω κ δ φ}

variable (b) in
/-- The loop has just subscribed again, and its next cycle follows at once. -/
structure Behind (x : Session ω κ δ φ) : Prop where
  loop : x.loop = some ⟨.cycling, true, false⟩
  status : x.state.status = .connected
  snapshot : ∃ fault, x.snapshot = { x.state.snapshot b with fault }

theorem told_loopStep {now : Nat} {r : Bool × Session ω κ δ φ} (told : x.state.Told b)
    (s : LoopStep b now x r) :
    r.2.state.Told b ∨ ∃ client awake, x.loop = some ⟨.redialed (.ok client), awake, false⟩ ∧
      r.2 = x.recordRedial b now (.ok client) := by
  cases s with
  | stay | block | rested | dialOn | dialed => exact .inl told
  | stop => exact .inl (by rwa [endLoop_state])
  | exchange loop free up went =>
    obtain ⟨client, client', w, messages, -, -, -, rfl⟩ := pump_ok went
    exact .inl (by rw [wait_state]; exact State.told_notify b _)
  | schedule => exact .inl (by rw [wait_state]; exact State.told_notify b _)
  | unplanned | giveUp | redial => exact .inl (State.told_setStatus b _ _)
  | @record awake result loop free =>
    cases result with
    | ok client => exact .inr ⟨client, awake, loop, rfl⟩
    | error e => exact .inl (by rw [recordRedial, wait_state]; exact State.told_setStatus b _ _)

/-- A cycle publishes in any case. -/
theorem told_cycle {awake : Bool} (loop : x.loop = some ⟨.cycling, awake, false⟩)
    (free : x.call.holdsState = false) (now : Nat) :
    x.stepLoop b now = (true, x.cycle b now) ∧ (x.cycle b now).state.Told b := by
  refine ⟨by simp [stepLoop, loop, free], ?_⟩
  have s := loopStep_cycle b now loop free
  generalize x.cycle b now = z at s
  cases s with
  | exchange _ _ _ went =>
    obtain ⟨client, client', w, messages, -, -, -, rfl⟩ := pump_ok went
    rw [wait_state]
    exact State.told_notify b _
  | schedule =>
    rw [wait_state]
    exact State.told_notify b _
  | unplanned | giveUp => exact State.told_setStatus b _ _
  | stop running stopping =>
    rw [loop] at running
    cases running
    cases stopping
  | rested running | redial running | dialed running | record running =>
    rw [loop] at running
    cases running

theorem behind_record {now : Nat} {client : κ} {awake : Bool}
    (loop : x.loop = some ⟨.redialed (.ok client), awake, false⟩) :
    (x.recordRedial b now (.ok client)).Behind b := by
  have changed := State.restoreSubscriptions_fst b (s := x.state.install b client) rfl x.outside
  have state : (x.recordRedial b now (.ok client)).state =
      ((x.state.install b client).restoreSubscriptions b x.outside).1 := rfl
  refine ⟨?_, ?_, b.fault client, ?_⟩
  · simp [recordRedial, loop, Phase.isWork]
  · rw [state, changed]
    rfl
  · rw [snapshot, state, changed]
    rfl

/-- Only a new client that is broken by subscribing again is not told of at once. -/
theorem told_record (candid : Candid b) {now : Nat} {client : κ}
    (restores : State.Restores b x.state.subscriptions client x.outside) :
    (x.recordRedial b now (.ok client)).state.Told b := by
  have installed := State.told_install b client x.state
  change State.Told b ((x.state.install b client).restoreSubscriptions b x.outside).1
  rw [State.restoreSubscriptions_fst b (s := x.state.install b client) rfl x.outside]
  exact installed.called rfl (State.restoreAll_fault candid restores)

/-! ## The caller -/

/-- Whatever a connect or a disconnect has made of the record, it has published it when it returns. -/
theorem told_callStep {now : Nat} {r : Bool × Session ω κ δ φ} (s : CallStep b now x r)
    (busy : x.call.isOver = false) (past : r.2.call.isOver = true) : r.2.state.Told b := by
  cases s with
  | stay =>
    rw [busy] at past
    cases past
  | @leave goal =>
    rw [Call.not_isOver_of_goal (sayGoodbye_goal? (b := b) (x := x) now goal)] at past
    cases past
  | join | leaveOn | left | dialOn => cases past
  | @clear goal =>
    cases goal with
    | disconnect => exact State.told_reset b _ _
    | connect => cases past
  | @dialed dial result =>
    cases result with
    | ok client => exact State.told_install b client _
    | error e => exact State.told_abandon b e _ _

theorem told_lost {client : κ} {w : ω} (e : SessionError) :
    ((x.called client w).act (State.markLost b e)).state.Told b := by
  rw [act_state]
  exact State.told_markLost b e _ _

theorem told_operateStep (candid : Candid b) {op : Operation}
    {r : Except SessionError Unit × Session ω κ δ φ} (s : OperateStep b op x r)
    (told : x.state.Told b) : r.2.state.Told b := by
  cases s with
  | refuse => exact told
  | succeed up held ran => exact told.called held (candid op ran)
  | «break» => exact told_lost _
  | fail => exact State.told_recordError b _ _

theorem behind_operateStep {op : Operation}
    {r : Except SessionError Unit × Session ω κ δ φ} (s : OperateStep b op x r)
    (behind : x.Behind b) : r.2.state.Told b ∨ r.2.Behind b := by
  cases s with
  | refuse => exact .inr behind
  | @succeed client client' w up held ran =>
    obtain ⟨fault, snapshot⟩ := behind.snapshot
    exact .inr ⟨behind.loop, behind.status, fault, snapshot⟩
  | «break» => exact .inl (told_lost _)
  | fail => exact .inl (State.told_recordError b _ _)

/-! ## Every move -/

theorem tearDown_over {now : Nat} {goal : Goal} (past : (x.tearDown b now goal).call.isOver = true) :
    (x.tearDown b now goal).state = x.state ∧ (x.tearDown b now goal).loop = x.loop := by
  unfold tearDown at past ⊢
  split at past
  · rename_i nothing
    rw [if_pos nothing]
    cases goal with
    | disconnect => exact ⟨rfl, rfl⟩
    | connect => cases past
  · cases past

theorem connect_over {now : Nat} {request : ConnectRequest} {handler : Option Handler}
    (past : (x.connect b now request handler).call.isOver = true) :
    (x.connect b now request handler).state = x.state ∧
      (x.connect b now request handler).loop = x.loop := by
  unfold connect at past ⊢
  split at past
  · exact ⟨rfl, rfl⟩
  · exact tearDown_over past

theorem Behind.of_same (behind : x.Behind b) (state : y.state = x.state) (loop : y.loop = x.loop) :
    y.Behind b := by
  obtain ⟨fault, snapshot⟩ := behind.snapshot
  refine ⟨loop.trans behind.loop, by rw [state, behind.status], fault, ?_⟩
  rw [Session.snapshot, state]
  exact snapshot

theorem told_move (candid : Candid b) {m : Move ω} (allowed : m.Allowed x)
    (past : (m.run b x).call.isOver = true) (told : x.call.isOver = true → x.state.Told b) :
    (m.run b x).state.Told b ∨ ∃ now client awake, m = .loop now ∧
      x.loop = some ⟨.redialed (.ok client), awake, false⟩ ∧
      m.run b x = x.recordRedial b now (.ok client) := by
  cases m with
  | loop now =>
    have s := loopStep b now x
    refine (told_loopStep (told (s.call ▸ past)) s).imp_right ?_
    rintro ⟨client, awake, loop, went⟩
    exact ⟨now, client, awake, rfl, loop, went⟩
  | call now =>
    left
    cases busy : x.call.isOver with
    | true =>
      rw [Move.run, stepCall_of_isOver busy]
      exact told busy
    | false => exact told_callStep (callStep b now x) busy past
  | connect now request handler =>
    left
    change State.Told b (x.connect b now request handler).state
    rw [(connect_over past).1]
    exact told allowed
  | disconnect now =>
    left
    change State.Told b (x.tearDown b now .disconnect).state
    rw [(tearDown_over past).1]
    exact told allowed
  | operate op =>
    have s := operateStep b op x
    exact .inl (told_operateStep candid s (told (s.call ▸ past)))
  | outside | collect => exact .inl (told past)
  | rest => exact .inl (told allowed)

theorem Behind.move (behind : x.Behind b) (free : x.call.isOver = true) {m : Move ω}
    (past : (m.run b x).call.isOver = true) : (m.run b x).state.Told b ∨ (m.run b x).Behind b := by
  cases m with
  | loop now =>
    obtain ⟨went, told⟩ := told_cycle behind.loop (Call.not_holdsState_of_over free) now
    left
    rwa [Move.run, went]
  | call now =>
    rw [Move.run, stepCall_of_isOver free]
    exact .inr behind
  | connect now request handler =>
    obtain ⟨state, loop⟩ := connect_over past
    exact .inr (behind.of_same state loop)
  | disconnect now =>
    obtain ⟨state, loop⟩ := tearDown_over past
    exact .inr (behind.of_same state loop)
  | operate op => exact behind_operateStep (operateStep b op x) behind
  | outside | collect | rest => exact .inr (behind.of_same rfl rfl)

theorem Reachable.told (candid : Candid b) (r : Reachable b x) (past : x.call.isOver = true) :
    x.state.Told b ∨ x.Behind b := by
  induction r with
  | new => exact .inl rfl
  | @move x m r allowed ih =>
    by_cases behind : x.call.isOver = true ∧ x.Behind b
    · exact behind.2.move behind.1 past
    · rcases told_move candid allowed past fun free => (ih free).resolve_right fun late =>
        behind ⟨free, late⟩ with told | ⟨now, client, awake, -, loop, went⟩
      · exact .inl told
      · right
        rw [went]
        exact behind_record loop

/-- The loop comes before everybody but a caller at work. -/
theorem Behind.step (behind : x.Behind b) (past : x.call.isOver = true) (o : Outside ω) (now : Nat) :
    x.step b o now = (true, (x.stepLoop b now).2) := by
  have went := (told_cycle (b := b) behind.loop (Call.not_holdsState_of_over past) now).1
  have awake : x.isAwake = true := by rw [isAwake, behind.loop]; rfl
  simp [Session.step, firstOf, stepCall_of_isOver past, stepWork, awake, went]

/-! ## Going straight on -/

def Move.Reconnects (b : Backend ω κ δ φ) (x : Session ω κ δ φ) : Move ω → Prop
  | loop now => Session.Reconnects b now x
  | call _ | connect .. | disconnect _ | operate _ | outside _ | collect | rest => False

/-- From a reconnect the loop has always gone straight on to its next cycle. Nobody had a turn in between,
but anything may have happened outside. -/
inductive Straight (b : Backend ω κ δ φ) : Session ω κ δ φ → Prop
  | new (settings : Settings) (w : ω) : Straight b { settings, outside := w }
  | move {x : Session ω κ δ φ} {m : Move ω} (straight : Straight b x) (allowed : m.Allowed x)
      (other : ¬ m.Reconnects b x) : Straight b (m.run b x)
  | reconnect {x : Session ω κ δ φ} {now now' : Nat} {w : ω} (straight : Straight b x)
      (reconnects : Session.Reconnects b now x) :
      Straight b (stepLoop b now' { (x.stepLoop b now).2 with outside := w }).2

theorem Straight.reachable (straight : Straight b x) : Reachable b x := by
  induction straight with
  | new settings w => exact .new settings w
  | move straight allowed other ih => exact ih.move allowed
  | reconnect straight reconnects ih => exact ((ih.loop _).outside _).loop _

theorem Straight.told (candid : Candid b) (straight : Straight b x) (past : x.call.isOver = true) :
    x.state.Told b := by
  induction straight with
  | new => rfl
  | @move x m straight allowed other ih =>
    rcases told_move candid allowed past ih with told | ⟨now, client, awake, rfl, loop, went⟩
    · exact told
    · exact absurd (straight.reachable.inv.reconnects loop went) other
  | @reconnect x now now' w straight reconnects ih =>
    obtain ⟨client, awake, loop, went⟩ := reconnects.record straight.reachable.inv
    have installed : (x.recordRedial b now (.ok client)).Behind b := behind_record loop
    have behind : Behind b { (x.stepLoop b now).2 with outside := w } := by
      rw [went]
      exact installed.of_same rfl rfl
    rw [(loopStep b now' _).call] at past
    obtain ⟨next, told⟩ := told_cycle behind.loop (Call.not_holdsState_of_over past) now'
    rwa [next]

/-- The loop has brought the connection back, and its next cycle is due. -/
def Halfway (b : Backend ω κ δ φ) (y : Session ω κ δ φ) : Prop :=
  ∃ x now, Straight b x ∧ Session.Reconnects b now x ∧ y = (x.stepLoop b now).2

theorem Straight.stepLoop (straight : Straight b x) (now : Nat) :
    Straight b (x.stepLoop b now).2 ∨ (x.stepLoop b now).1 = true ∧ Halfway b (x.stepLoop b now).2 := by
  by_cases reconnects : Session.Reconnects b now x
  · have inv := straight.reachable.inv
    obtain ⟨client, awake, loop, -⟩ := reconnects.record inv
    have free := (inv.alone loop rfl).2
    refine .inr ⟨?_, x, now, straight, reconnects, rfl⟩
    simp [Session.stepLoop, loop, free]
  · exact .inl (straight.move (m := .loop now) trivial reconnects)

theorem Straight.stepOutside (straight : Straight b x) (o : Outside ω) (now : Nat)
    (before : Option Nat) : Straight b (x.stepOutside o now before).2 := by
  unfold Session.stepOutside
  split
  · exact straight.move (m := .outside _) trivial not_false
  · exact straight

theorem Straight.step (straight : Straight b x) (o : Outside ω) (now : Nat) :
    Straight b (x.step b o now).2 ∨ Halfway b (x.step b o now).2 := by
  refine firstOf_keeps (fun f mem y sy => ?_) straight
  simp only [List.mem_cons, List.not_mem_nil, or_false] at mem
  rcases mem with rfl | rfl | rfl | rfl | rfl
  · exact .inl (sy.move (m := .call now) trivial not_false)
  · unfold stepWork
    split
    · exact sy.stepLoop now
    · exact .inl sy
  · exact .inl (sy.stepOutside o now _)
  · exact sy.stepLoop now
  · exact .inl (sy.stepOutside o now none)

theorem Halfway.step (halfway : Halfway b x) (o : Outside ω) (now : Nat) :
    (x.step b o now).1 = true ∧ Straight b (x.step b o now).2 := by
  obtain ⟨z, now', straight, reconnects, rfl⟩ := halfway
  have inv := straight.reachable.inv
  obtain ⟨client, awake, loop, went⟩ := reconnects.record inv
  have behind : (z.stepLoop b now').2.Behind b := by
    rw [went]
    exact behind_record loop
  have past : (z.stepLoop b now').2.call.isOver = true := by
    have asked := inv.asked _ loop
    rw [(loopStep b now' z).call]
    simpa using asked.symm
  rw [behind.step past]
  exact ⟨rfl, straight.reconnect reconnects⟩

theorem settleIn_straight (o : Outside ω) (now steps : Nat) (on : Straight b x ∨ Halfway b x) :
    Straight b (x.settleIn b o now steps) ∨ Halfway b (x.settleIn b o now steps) := by
  induction steps generalizing x with
  | zero => exact on
  | succ steps ih =>
    have next : Straight b (x.step b o now).2 ∨ Halfway b (x.step b o now).2 := by
      rcases on with straight | halfway
      · exact straight.step o now
      · exact .inl (halfway.step o now).2
    unfold settleIn
    split
    · rename_i y e
      rw [e] at next
      exact ih next
    · rename_i y e
      rwa [e] at next

/-- When all that can happen now has happened, the loop has gone straight on. -/
theorem Straight.settle (straight : Straight b x) (o : Outside ω) (now : Nat)
    (rests : ((x.settle b o now).step b o now).1 = false) : Straight b (x.settle b o now) := by
  refine (settleIn_straight o now stepsPerInstant (.inl straight)).resolve_right fun halfway => ?_
  have goesOn : ((x.settle b o now).step b o now).1 = true := (halfway.step o now).1
  rw [rests] at goesOn
  cases goesOn

/-! ## Whoever looks -/

variable (b) in
/-- What is seen of a session is what is on record. -/
structure Seen (x : Session ω κ δ φ) : Prop where
  snapshot : x.snapshot = x.state.snapshot b
  connected : x.snapshot.connected = true ↔
    x.state.status = .connected ∧ ∃ client, x.state.client = some client ∧ b.fault client = none

theorem Reachable.seen (r : Reachable b x) (past : x.call.isOver = true) (told : x.state.Told b) :
    x.Seen b := by
  refine ⟨told, ?_⟩
  have coherent := reachable_coherent r (Call.not_holdsState_of_over past)
  rw [snapshot, show x.state.published = x.state.snapshot b from told]
  rw [Snapshot.connected, State.snapshot, decide_eq_true_iff]
  refine and_congr_right fun up => ?_
  obtain ⟨client, held⟩ := Option.isSome_iff_exists.1 (coherent.client_iff.2 up)
  simp [held]

/-- What is seen of a session is what is on record, as long as the loop goes straight on from a reconnect
to its next cycle. Even if others cut in it is so whenever the loop is at rest and when an instant is over,
and there is only one moment at which it may not be so: a new client is broken by subscribing again, and
the cycle that follows at once has not said so yet. -/
theorem snapshot_seen (candid : Candid b) :
    (∀ x, Straight b x → x.call.isOver = true → x.Seen b) ∧
    ∀ x, Reachable b x → x.call.isOver = true →
      (x.isAwake = false → x.Seen b) ∧
      (∀ (o : Outside ω) now, (x.step b o now).1 = false → x.Seen b) ∧
      (x.Seen b ∨ x.Behind b ∧ ∀ now, (x.stepLoop b now).1 = true ∧ (x.stepLoop b now).2.Seen b) ∧
      ∀ now, x.Seen b → (x.stepLoop b now).2.Seen b ∨
        ∃ client awake, x.loop = some ⟨.redialed (.ok client), awake, false⟩ ∧
          ¬ State.Restores b x.state.subscriptions client x.outside := by
  refine ⟨fun x straight past => straight.reachable.seen past (straight.told candid past),
    fun x r past => ?_⟩
  have behind_seen : x.Seen b ∨ x.Behind b :=
    (r.told candid past).imp_left (r.seen past)
  refine ⟨fun rests => ?_, fun o now rests => ?_, ?_, fun now seen => ?_⟩
  · refine behind_seen.resolve_right fun behind => ?_
    rw [isAwake, behind.loop] at rests
    cases rests
  · refine behind_seen.resolve_right fun behind => ?_
    rw [behind.step past] at rests
    cases rests
  · refine behind_seen.imp_right fun behind => ⟨behind, fun now => ?_⟩
    obtain ⟨went, told⟩ := told_cycle (b := b) behind.loop (Call.not_holdsState_of_over past) now
    have next := r.loop now
    have call := (loopStep b now x).call
    rw [went] at next call ⊢
    exact ⟨rfl, next.seen (call ▸ past) told⟩
  · have next := r.loop now
    have s := loopStep b now x
    have past' : (x.stepLoop b now).2.call.isOver = true := s.call.symm ▸ past
    rcases told_loopStep seen.snapshot s with told | ⟨client, awake, loop, went⟩
    · exact .inl (next.seen past' told)
    · by_cases restores : State.Restores b x.state.subscriptions client x.outside
      · refine .inl (next.seen past' ?_)
        rw [went]
        exact told_record candid restores
      · exact .inr ⟨client, awake, loop, restores⟩

end Session

/-! ## Who is candid -/

theorem Ledger.candid : Candid Ledger.backend := by
  intro op client l client' l' ran
  have same : client' = client := by
    cases op with
    | publish message qos retain =>
      change Ledger.publish message qos retain client l = _ at ran
      unfold Ledger.publish at ran
      split at ran <;> cases ran
      rfl
    | subscribe topic qos =>
      change Ledger.subscribe topic qos client l = _ at ran
      unfold Ledger.subscribe at ran
      split at ran <;> cases ran
      rfl
    | unsubscribe topic =>
      change Ledger.unsubscribe topic client l = _ at ran
      unfold Ledger.unsubscribe at ran
      split at ran <;> cases ran
      rfl
  rw [same]

/-- A client that is broken already does nothing, and one that notes a fault fails. -/
theorem Client.fault_of_decided {c c' : Client} {own : UInt16 → Option Packet} {next : Unit → EngineM Unit}
    (ran : lift (Engine.ready >>= next) c = (.ok (), c'))
    (decided : c.fault = none → Decided own c (lift (Engine.ready >>= next) c)) : c'.fault = c.fault := by
  have whole : c.fault = none := by
    cases broken : c.fault with
    | none => rfl
    | some f =>
      rw [lift_of_fault broken] at ran
      cases ran
  have decided := decided whole
  rw [ran] at decided
  rcases decided with noted | ⟨f, failed, -⟩
  · exact noted.trans whole.symm
  · cases failed

theorem Lines.queueing_ok {op : MqttLink.Client → Except Fault Unit × MqttLink.Client} {s s' : Speaker}
    {ls ls' : Lines} (ran : queueing op s ls = (.ok (), s', ls')) :
    op s.client = (.ok (), s'.client) := by
  unfold queueing at ran
  rcases worked : op s.client with ⟨result, client⟩
  rw [worked] at ran
  cases ran
  rfl

theorem Lines.candid : Candid Lines.backend := by
  intro op s ls s' ls' ran
  cases op with
  | publish message qos retain =>
    exact Client.fault_of_decided (Lines.queueing_ok ran) (Client.decided_publish message qos retain)
  | subscribe topic qos =>
    exact Client.fault_of_decided (Lines.queueing_ok ran) (Client.decided_subscribe topic qos)
  | unsubscribe topic =>
    exact Client.fault_of_decided (Lines.queueing_ok ran) (Client.decided_unsubscribe topic)

/-- After a loss and a reconnect that subscribes again, when the loop has gone straight on. -/
theorem Session.snapshot_seen_reconnected :
    ∃ x : Session Lines Lines.Speaker Lines.Dial Lines.Leave,
      Straight Lines.backend x ∧ x.outside.links.map (·.closed) = #[true, false] ∧
      x.state.subscriptions = [("a", .atMostOnce)] ∧
      x.snapshot.connected = true ∧ x.Seen Lines.backend := by
  let script : List Line :=
    [{ answer := .link [.now (.feed [0x20, 2, 0, 0]), .now .finish] },
      { answer := .link [.now (.feed [0x20, 2, 0, 0])] }]
  have s := Straight.new (b := Lines.backend) {} { script }
  have s := s.move (m := .connect 0 { host := "h" } none) rfl not_false
  have s := s.move (m := .call 0) trivial not_false
  have s := s.move (m := .operate (.subscribe "a" .atMostOnce)) (by cbv) not_false
  have s := s.move (m := .loop 0) trivial (by cbv)
  have s := s.move (m := .loop 1000) trivial (by cbv; decide)
  have s := s.move (m := .loop 1000) trivial (by cbv; decide)
  have at_once : ∀ {x : Session Lines Lines.Speaker Lines.Dial Lines.Leave}, Straight Lines.backend x →
      Session.Reconnects Lines.backend 1000 x →
      Straight Lines.backend (stepLoop Lines.backend 1000 (x.stepLoop Lines.backend 1000).2).2 :=
    fun s => s.reconnect (w := _)
  have s := at_once s (by cbv; decide)
  have seen := (snapshot_seen Lines.candid).1 _ s (by cbv)
  exact ⟨_, s, by cbv, by cbv, by cbv, seen⟩

/-- A buffer takes one subscription and no more. After a loss and a reconnect that subscribes to two topics
again the client is broken, and before the next cycle it is still seen as connected. -/
theorem Session.broken_seen_connected :
    ∃ (x : Session Lines Lines.Speaker Lines.Dial Lines.Leave) (s : Lines.Speaker),
      Reachable Lines.backend x ∧ x.call.isOver = true ∧ x.state.status = .connected ∧
      x.state.client = some s ∧ s.client.fault = some .sendBufferFull ∧
      x.snapshot.connected = true ∧ x.snapshot ≠ x.state.snapshot Lines.backend := by
  let script : List Line :=
    [{ answer := .link [.now (.feed [0x20, 2, 0, 0])] },
      { answer := .link [.now (.feed [0x20, 2, 0, 0])] }]
  have finish : ∀ {x : Session Lines Lines.Speaker Lines.Dial Lines.Leave}, Reachable Lines.backend x →
      Reachable Lines.backend { x with outside := x.outside.changeLatest (·.perform .finish) } :=
    fun r => r.outside _
  have r := Reachable.new (b := Lines.backend) { buffers := { send := 14 } } { script }
  have r := r.move (m := .connect 0 { host := "h" } none) rfl
  have r := r.move (m := .call 0) trivial
  have r := r.move (m := .operate (.subscribe "a" .atMostOnce)) (by cbv)
  have r := r.move (m := .loop 0) trivial
  have r := r.move (m := .operate (.subscribe "b" .atMostOnce)) (by cbv)
  have r := r.move (m := .loop 100) trivial
  have r := r.move (m := .loop 100) trivial
  have r := finish r
  have r := r.move (m := .loop 200) trivial
  have r := r.move (m := .loop 200) trivial
  have r := r.move (m := .loop 1200) trivial
  have r := r.move (m := .loop 1200) trivial
  have r := r.move (m := .loop 1200) trivial
  refine ⟨_, _, r, by cbv, by cbv, by cbv, by cbv, by cbv, fun same => ?_⟩
  have told := congrArg Snapshot.fault same
  cbv at told
  cases told

end MqttLink
