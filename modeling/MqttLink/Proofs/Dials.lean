import MqttLink.Proofs.Ownership
import MqttLink.Proofs.Spared
import MqttLink.Proofs.TearDown

/-!
# Dials on record

A backend can write down every dial, with the outside as it is when the dial begins. Nothing else changes
by that: a session with the record, once the record is forgotten, is the session without it. A dial begins
in the loop after a backoff, at the end of a tear-down, or in a connect that has nothing to tear down.
-/

namespace MqttLink

variable {ω κ δ φ : Type}

/-- A dial, and the outside just before it. -/
structure DialRecord (ω : Type) where
  now : Nat
  settings : Settings
  plan : ConnectPlan
  handler : Option Handler
  outside : ω

structure Logged (ω : Type) where
  outside : ω
  /-- Every dial so far, the first one first. -/
  dials : List (DialRecord ω) := []

def Logged.under (w : Logged ω) (outside : ω) : Logged ω := { w with outside }

/-- The backend that also writes down every dial. -/
def Backend.logged (b : Backend ω κ δ φ) : Backend (Logged ω) κ δ φ where
  appoint due w := (b.appoint due w.outside).map id w.under
  dial now settings plan handler w :=
    let dials := w.dials ++ [{ now, settings, plan, handler, outside := w.outside }]
    (b.dial now settings plan handler w.outside).map id fun outside => { outside, dials }
  pollDial now d w := (b.pollDial now d w.outside).map id w.under
  dialWake := b.dialWake
  hangUp d w := w.under (b.hangUp d w.outside)
  fault := b.fault
  publish message qos retain client w :=
    (b.publish message qos retain client w.outside).map id (Prod.map id w.under)
  subscribe topic qos client w := (b.subscribe topic qos client w.outside).map id (Prod.map id w.under)
  unsubscribe topic client w := (b.unsubscribe topic client w.outside).map id (Prod.map id w.under)
  sync now client w := (b.sync now client w.outside).map id (Prod.map id (Prod.map id w.under))
  leave now client w := (b.leave now client w.outside).map id w.under
  pollLeave now f w := (b.pollLeave now f w.outside).map id w.under
  leaveWake := b.leaveWake
  drop client w := w.under (b.drop client w.outside)

theorem Operation.run_logged (b : Backend ω κ δ φ) (op : Operation) (client : κ) (w : Logged ω) :
    op.run b.logged client w = (op.run b client w.outside).map id (Prod.map id w.under) := by
  cases op <;> rfl

/-! ## Forgetting the record -/

namespace Session

def forget (x : Session (Logged ω) κ δ φ) : Session ω κ δ φ where
  settings := x.settings
  state := x.state
  loop := x.loop
  call := x.call
  outside := x.outside.outside
  delivered := x.delivered

def Move.forget : Move (Logged ω) → Move ω
  | loop now => loop now
  | call now => call now
  | connect now request handler => connect now request handler
  | disconnect now => disconnect now
  | operate op => operate op
  | outside w => outside w.outside
  | collect => collect
  | rest => rest

/-- Whatever happens outside by itself leaves the record alone. -/
def Move.KeepsRecord (x : Session (Logged ω) κ δ φ) : Move (Logged ω) → Prop
  | outside w => w.dials = x.outside.dials
  | loop _ | call _ | connect .. | disconnect _ | operate _ | collect | rest => True

end Session

namespace State

variable (b : Backend ω κ δ φ) (s : State κ) (w : Logged ω)

theorem dropConnection_logged :
    s.dropConnection b.logged w = (s.dropConnection b w.outside).map id w.under := by
  unfold dropConnection
  split <;> rfl

theorem restoreAll_logged (subscriptions : List (String × QoS)) (client : κ) :
    restoreAll b.logged subscriptions client w =
      (restoreAll b subscriptions client w.outside).map id w.under := by
  induction subscriptions generalizing client w with
  | nil => rfl
  | cons first rest ih =>
    obtain ⟨topic, qos⟩ := first
    rcases ran : b.subscribe topic qos client w.outside with ⟨result, client', outside⟩
    have ran' : b.logged.subscribe topic qos client w = (result, client', w.under outside) := by
      simp [Backend.logged, ran]
    unfold restoreAll
    rw [ran, ran']
    cases result with
    | ok => exact ih (w.under outside) client'
    | error f => rfl

theorem markLost_logged (e : SessionError) :
    s.markLost b.logged e w = (s.markLost b e w.outside).map id w.under := by
  unfold markLost
  rw [dropConnection_logged]
  rfl

theorem abandon_logged (e : SessionError) :
    s.abandon b.logged e w = (s.abandon b e w.outside).map id w.under := by
  unfold abandon
  rw [dropConnection_logged]
  rfl

theorem reset_logged : s.reset b.logged w = (s.reset b w.outside).map id w.under := by
  unfold reset
  rw [dropConnection_logged]
  rfl

theorem restoreSubscriptions_logged :
    s.restoreSubscriptions b.logged w = (s.restoreSubscriptions b w.outside).map id w.under := by
  unfold restoreSubscriptions
  split
  · rfl
  · rw [restoreAll_logged]
    rfl

end State

namespace Session

variable {b : Backend ω κ δ φ} (x : Session (Logged ω) κ δ φ)

theorem forget_act {f : State κ → Logged ω → State κ × Logged ω} {g : State κ → ω → State κ × ω}
    (same : f x.state x.outside = (g x.state x.outside.outside).map id x.outside.under) :
    (x.act f).forget = x.forget.act g := by
  simp [act, forget, same, Logged.under]

theorem forget_wait (now time : Nat) (p : Appointment → Phase κ δ) :
    (x.wait b.logged now time p).forget = x.forget.wait b now time p := by
  unfold wait
  dsimp only
  split <;> rfl

theorem forget_pump (now : Nat) : (x.pump b.logged now).map id forget = x.forget.pump b now := by
  unfold pump
  cases held : x.state.client with
  | none => simp [forget, held]
  | some client =>
    rcases synced : b.sync now client x.outside.outside with ⟨result, messages, client', outside⟩
    have synced' : b.logged.sync now client x.outside =
        (result, messages, client', x.outside.under outside) := by
      simp [Backend.logged, synced]
    have held' : x.forget.state.client = some client := held
    have synced'' : b.sync now client x.forget.outside = (result, messages, client', outside) := synced
    have fault : b.logged.fault client' = b.fault client' := rfl
    simp only [held', synced', synced'', fault]
    cases result with
    | error f => rfl
    | ok => cases b.fault client' <;> rfl

theorem forget_afterLoss (now : Nat) : (x.afterLoss b.logged now).forget = x.forget.afterLoss b now := by
  unfold afterLoss
  have same : x.forget.settings.decide x.forget.state.lastFault x.forget.state.retries false =
    x.settings.decide x.state.lastFault x.state.retries false := rfl
  rw [same]
  cases x.settings.decide x.state.lastFault x.state.retries false with
  | proceed attempt delay =>
    cases planned : x.state.plan with
    | none =>
      have planned' : x.forget.state.plan = none := planned
      simp only [planned']
      rfl
    | some plan =>
      have planned' : x.forget.state.plan = some plan := planned
      simp only [planned']
      exact forget_wait ..
  | stopRequested | notRetriable | exhausted => rfl

theorem forget_cycle (now : Nat) : (x.cycle b.logged now).forget = x.forget.cycle b now := by
  unfold cycle
  have pumped := forget_pump (b := b) x now
  rcases went : x.pump b.logged now with ⟨result, y⟩
  rw [went] at pumped
  rw [← pumped]
  by_cases up : x.state.status = .connected
  · rw [if_pos up, if_pos (by exact up)]
    cases result with
    | ok => exact forget_wait ..
    | error e =>
      exact (forget_afterLoss _ now).trans
        (congrArg (afterLoss b now) (forget_act y (State.markLost_logged b y.state y.outside e)))
  · rw [if_neg up, if_neg (by exact up)]
    exact forget_afterLoss x now

theorem forget_redial (now : Nat) (plan : ConnectPlan) (handler : Option Handler) :
    (x.redial b.logged now plan handler).forget = x.forget.redial b now plan handler := by
  unfold redial act
  rw [State.dropConnection_logged]
  rfl

theorem forget_recordRedial (now : Nat) (result : Except SessionError κ) :
    (x.recordRedial b.logged now result).forget = x.forget.recordRedial b now result := by
  cases result with
  | ok client =>
    unfold recordRedial act
    simp only
    rw [State.restoreSubscriptions_logged]
    rfl
  | error e => exact forget_wait ..

theorem forget_endLoop (p : Phase κ δ) : (x.endLoop b.logged p).forget = x.forget.endLoop b p := by
  unfold endLoop
  split <;> rfl

theorem forget_stepLoop (now : Nat) :
    (x.stepLoop b.logged now).map id forget = x.forget.stepLoop b now := by
  unfold stepLoop
  cases running : x.loop with
  | none => simp [forget, running]
  | some l =>
    obtain ⟨phase, awake, stopping⟩ := l
    have running' : x.forget.loop = some ⟨phase, awake, stopping⟩ := running
    simp only [running']
    cases stopping with
    | true =>
      cases phase with
      | ended => rfl
      | cycling | resting | backingOff | redialing | redialed =>
        exact congrArg (Prod.mk true) (forget_endLoop x _)
    | false =>
      cases phase with
      | ended => rfl
      | cycling =>
        change Prod.map id forget (if x.call.holdsState then _ else _) =
          if x.call.holdsState then _ else _
        split
        · rfl
        · exact congrArg (Prod.mk true) (forget_cycle x now)
      | resting time =>
        by_cases due : time.due ≤ now
        · simp [due]
          rfl
        · simp [due]
      | backingOff time plan handler =>
        change Prod.map id forget (if time.due ≤ now ∧ !x.call.holdsState then _ else _) =
          if time.due ≤ now ∧ !x.call.holdsState then _ else _
        split
        · exact congrArg (Prod.mk true) (forget_redial x now plan handler)
        · rfl
      | redialing dial =>
        rcases polled : b.pollDial now dial x.outside.outside with ⟨r, w⟩
        have polled' : b.logged.pollDial now dial x.outside = (r, x.outside.under w) := by
          simp [Backend.logged, polled]
        have polled'' : b.pollDial now dial x.forget.outside = (r, w) := polled
        simp only [polled', polled'']
        cases r <;> rfl
      | redialed result =>
        change Prod.map id forget (if x.call.holdsState then _ else _) =
          if x.call.holdsState then _ else _
        split
        · rfl
        · exact congrArg (Prod.mk true) (forget_recordRedial x now result)

theorem forget_pursue (now : Nat) (goal : Goal) :
    (x.pursue b.logged now goal).forget = x.forget.pursue b now goal := by
  cases goal <;> rfl

theorem forget_recordDial (result : Except SessionError κ) :
    (x.recordDial b.logged result).forget = x.forget.recordDial b result := by
  cases result with
  | ok client => rfl
  | error e =>
    unfold recordDial act
    simp only
    rw [State.abandon_logged]
    rfl

theorem forget_sayGoodbye (now : Nat) (goal : Goal) :
    (x.sayGoodbye b.logged now goal).forget = x.forget.sayGoodbye b now goal := by
  unfold sayGoodbye
  have same : x.forget.state = x.state := rfl
  rw [same]
  split <;> rfl

theorem forget_stepCall (now : Nat) :
    (x.stepCall b.logged now).map id forget = x.forget.stepCall b now := by
  unfold stepCall
  have same : x.forget.call = x.call := rfl
  rw [same]
  cases x.call with
  | idle | finished => rfl
  | stopping goal => exact congrArg (Prod.mk true) (forget_sayGoodbye x now goal)
  | leaving goal farewell =>
    rcases polled : b.pollLeave now farewell x.outside.outside with ⟨r, w⟩
    have polled' : b.logged.pollLeave now farewell x.outside = (r, x.outside.under w) := by
      simp [Backend.logged, polled]
    have polled'' : b.pollLeave now farewell x.forget.outside = (r, w) := polled
    simp only [polled', polled'']
    cases r <;> rfl
  | joining goal =>
    have same : x.forget.loop = x.loop := rfl
    simp only [same]
    split
    · refine congrArg (Prod.mk true) ((forget_pursue _ now goal).trans (congrArg (pursue b now goal) ?_))
      exact forget_act { x with loop := none, call := .joining goal } (State.reset_logged b x.state x.outside)
    · refine congrArg (Prod.mk true) ((forget_pursue _ now goal).trans (congrArg (pursue b now goal) ?_))
      exact forget_act { x with loop := none, call := .joining goal } (State.reset_logged b x.state x.outside)
    · rfl
  | dialing dial =>
    rcases polled : b.pollDial now dial x.outside.outside with ⟨r, w⟩
    have polled' : b.logged.pollDial now dial x.outside = (r, x.outside.under w) := by
      simp [Backend.logged, polled]
    have polled'' : b.pollDial now dial x.forget.outside = (r, w) := polled
    simp only [polled', polled'']
    cases r with
    | waiting => rfl
    | done result =>
      exact congrArg (Prod.mk true) (forget_recordDial { x with outside := x.outside.under w } result)

theorem forget_operate (op : Operation) :
    (x.operate b.logged op).map id forget = x.forget.operate b op := by
  unfold operate
  have status : x.forget.state.status = x.state.status := rfl
  have held : x.forget.state.client = x.state.client := rfl
  rw [status, held]
  cases up : x.state.status with
  | uninitialized | connecting | disconnected | reconnectFailed => rfl
  | connected =>
    cases held' : x.state.client with
    | none => rfl
    | some client =>
      rcases ran : op.run b client x.outside.outside with ⟨result, client', w⟩
      have ran' : op.run b.logged client x.outside = (result, client', x.outside.under w) := by
        rw [Operation.run_logged, ran]
        rfl
      have ran'' : op.run b client x.forget.outside = (result, client', w) := ran
      have fault : b.logged.fault client' = b.fault client' := rfl
      simp only [ran', ran'', fault]
      cases op.topic.isEmpty with
      | true => rfl
      | false =>
        cases result with
        | ok => rfl
        | error f =>
          cases b.fault client' with
          | none => rfl
          | some f' =>
            refine congrArg (Prod.mk _) ?_
            exact forget_act (x.called client' (x.outside.under w)) (State.markLost_logged b _ _ _)

theorem forget_tearDown (now : Nat) (goal : Goal) :
    (x.tearDown b.logged now goal).forget = x.forget.tearDown b now goal := by
  unfold tearDown
  change forget (if !x.snapshot.status.isInitialized ∧ x.loop.isNone then _ else _) =
    if !x.snapshot.status.isInitialized ∧ x.loop.isNone then _ else _
  split
  · exact forget_pursue x now goal
  · rfl

theorem forget_run (m : Move (Logged ω)) : (m.run b.logged x).forget = m.forget.run b x.forget := by
  cases m with
  | loop now => exact congrArg Prod.snd (forget_stepLoop x now)
  | call now => exact congrArg Prod.snd (forget_stepCall x now)
  | connect now request handler =>
    change (x.connect b.logged now request handler).forget = x.forget.connect b now request handler
    unfold connect
    split
    · rfl
    · exact forget_tearDown x now _
  | disconnect now => exact forget_tearDown x now _
  | operate op => exact congrArg Prod.snd (forget_operate x op)
  | outside | collect | rest => rfl

/-- Whatever a session with the record does, the one without it does. -/
theorem Reachable.forget {x : Session (Logged ω) κ δ φ} (r : Reachable b.logged x) :
    Reachable b x.forget := by
  induction r with
  | new settings w => exact .new settings w.outside
  | @move x m r allowed ih =>
    rw [forget_run]
    refine ih.move ?_
    cases m <;> exact allowed

end Session

/-! ## Where a dial begins -/

theorem Logged.spares (b : Backend ω κ δ φ) : Spares b.logged Logged.dials where
  appoint _ _ := rfl
  pollDial _ _ _ := rfl
  hangUp _ _ := rfl
  sync _ _ _ := rfl
  leave _ _ _ := rfl
  pollLeave _ _ _ := rfl
  drop _ _ := rfl

theorem Spares.logged {α : Type} {b : Backend ω κ δ φ} {view : ω → α} (spares : Spares b view) :
    Spares b.logged fun w => (w.dials, view w.outside) where
  appoint time w := congrArg (w.dials, ·) (spares.appoint time w.outside)
  pollDial now d w := congrArg (w.dials, ·) (spares.pollDial now d w.outside)
  hangUp d w := congrArg (w.dials, ·) (spares.hangUp d w.outside)
  sync now client w := congrArg (w.dials, ·) (spares.sync now client w.outside)
  leave now client w := congrArg (w.dials, ·) (spares.leave now client w.outside)
  pollLeave now f w := congrArg (w.dials, ·) (spares.pollLeave now f w.outside)
  drop client w := congrArg (w.dials, ·) (spares.drop client w.outside)

theorem Logged.operations (b : Backend ω κ δ φ) (op : Operation) (client : κ) (w : Logged ω) :
    (op.run b.logged client w).2.2.dials = w.dials := by
  cases op <;> rfl

namespace Session

/-- The move by which a dial begins, and what is put on record for it. -/
inductive Begins (b : Backend ω κ δ φ) (x : Session (Logged ω) κ δ φ) :
    Move (Logged ω) → DialRecord ω → Prop
  | redial {now : Nat} {time : Appointment} {plan : ConnectPlan} {handler : Option Handler} {awake : Bool}
      (loop : x.loop = some ⟨.backingOff time plan handler, awake, false⟩) :
      Begins b x (.loop now)
        ⟨now, x.settings, plan, handler, (x.state.dropConnection b x.outside.outside).2⟩
  | cleared {now : Nat} {plan : ConnectPlan} {handler : Option Handler}
      (call : x.call = .joining (.connect plan handler)) (past : x.LoopOver) :
      Begins b x (.call now) ⟨now, x.settings, plan, handler, (x.state.reset b x.outside.outside).2⟩
  | unused {now : Nat} {request : ConnectRequest} {handler : Option Handler}
      (loop : x.loop = none) (blank : x.snapshot.status = .uninitialized) :
      Begins b x (.connect now request handler)
        ⟨now, x.settings, request.plan, handler, x.outside.outside⟩

theorem Begins.spared {α : Type} {view : ω → α} (spares : Spares b view)
    {x : Session (Logged ω) κ δ φ} {m : Move (Logged ω)} {record : DialRecord ω}
    (begins : Begins b x m record) : view record.outside = view x.outside.outside := by
  cases begins with
  | redial => exact spares.dropConnection _ _
  | cleared => exact spares.reset _ _
  | unused => rfl

/-- What only a dial can change is left alone by a move, or changed just as by the dial that it begins. -/
theorem view_move {α : Type} {view : Logged ω → α} (spares : Spares b.logged view)
    (operations : ∀ (op : Operation) client w, view (op.run b.logged client w).2.2 = view w)
    {x : Session (Logged ω) κ δ φ} {m : Move (Logged ω)}
    (kept : ∀ w, m = .outside w → view w = view x.outside) :
    view (m.run b.logged x).outside = view x.outside ∨
    ∃ record, Begins b x m record ∧ view (m.run b.logged x).outside =
      view (b.logged.dial record.now record.settings record.plan record.handler
        (x.outside.under record.outside)).2 := by
  cases m with
  | loop now =>
    change view (x.stepLoop b.logged now).2.outside = _ ∨ _
    rcases spares.loopStep (loopStep b.logged now x) with same | ⟨time, plan, handler, awake, loop, -, went⟩ |
      ⟨client, awake, loop, went⟩
    · exact .inl same
    · refine .inr ⟨_, .redial loop, ?_⟩
      change view (x.stepLoop b.logged now).2.outside = _
      rw [went]
      let w := (x.state.dropConnection b.logged x.outside).2
      have dropped : w = x.outside.under (x.state.dropConnection b x.outside.outside).2 :=
        congrArg Prod.snd (State.dropConnection_logged b x.state x.outside)
      change view (b.logged.dial now x.settings plan handler w).2 = _
      rw [dropped]
    · refine .inl ?_
      rw [went]
      exact Spares.restoreAll operations _ _ _
  | call now =>
    change view (x.stepCall b.logged now).2.outside = _ ∨ _
    rcases spares.callStep (callStep b.logged now x) with same | ⟨plan, handler, call, past, went⟩
    · exact .inl same
    · refine .inr ⟨_, .cleared call past, ?_⟩
      change view (x.stepCall b.logged now).2.outside = _
      rw [went]
      let w := (x.state.reset b.logged x.outside).2
      have cleared : w = x.outside.under (x.state.reset b x.outside.outside).2 :=
        congrArg Prod.snd (State.reset_logged b x.state x.outside)
      change view (b.logged.dial now x.settings plan handler w).2 = _
      rw [cleared]
  | connect now request handler =>
    change view (x.connect b.logged now request handler).outside = _ ∨
      ∃ record, _ ∧ view (x.connect b.logged now request handler).outside = _
    unfold connect
    split
    · exact .inl rfl
    · rcases Spares.tearDown (b := b.logged) (x := x) view now (.connect request.plan handler) with
        same | ⟨plan, handler', goal, loop, blank, went⟩
      · exact .inl same
      · cases goal
        refine .inr ⟨_, .unused loop blank, ?_⟩
        rw [went]
        rfl
  | disconnect now =>
    rcases Spares.tearDown (b := b.logged) (x := x) view now .disconnect with
      same | ⟨plan, handler, goal, -⟩
    · exact .inl same
    · cases goal
  | operate op => exact .inl (spares.operateStep operations (operateStep b.logged op x))
  | outside w => exact .inl (kept w rfl)
  | collect | rest => exact .inl rfl

/-- A move puts at most one dial on record. -/
theorem dials_move {x : Session (Logged ω) κ δ φ} {m : Move (Logged ω)} (kept : m.KeepsRecord x) :
    (m.run b.logged x).outside.dials = x.outside.dials ∨
    ∃ record, Begins b x m record ∧
      (m.run b.logged x).outside.dials = x.outside.dials ++ [record] := by
  refine view_move (Logged.spares b) (Logged.operations b) ?_
  rintro w rfl
  exact kept

end Session

end MqttLink
