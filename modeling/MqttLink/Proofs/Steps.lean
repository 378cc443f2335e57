import MqttLink.Proofs.Runs

/-!
# What one step can do

One case for each way in which the loop or the caller can go on. Every invariant is a case analysis of
these, and nothing else unfolds the steps.
-/

namespace MqttLink

/-! ## The record -/

namespace State

variable {ω κ δ φ : Type} (b : Backend ω κ δ φ)

@[simp] theorem notify_status (s : State κ) : (s.notify b).status = s.status := rfl
@[simp] theorem notify_client (s : State κ) : (s.notify b).client = s.client := rfl
@[simp] theorem notify_plan (s : State κ) : (s.notify b).plan = s.plan := rfl
@[simp] theorem notify_retries (s : State κ) : (s.notify b).retries = s.retries := rfl
@[simp] theorem notify_lastError (s : State κ) : (s.notify b).lastError = s.lastError := rfl
@[simp] theorem notify_lastFault (s : State κ) : (s.notify b).lastFault = s.lastFault := rfl
@[simp] theorem notify_handler (s : State κ) : (s.notify b).handler = s.handler := rfl
@[simp] theorem notify_subscriptions (s : State κ) : (s.notify b).subscriptions = s.subscriptions := rfl
@[simp] theorem notify_published (s : State κ) : (s.notify b).published = s.snapshot b := rfl
@[simp] theorem snapshot_status (s : State κ) : (s.snapshot b).status = s.status := rfl

theorem dropConnection_fst (s : State κ) (w : ω) :
    (s.dropConnection b w).1 = { s with client := none } := by
  unfold dropConnection
  split
  · rename_i h
    rw [← h]
  · rfl

theorem markLost_fst (e : SessionError) (s : State κ) (w : ω) :
    (s.markLost b e w).1 =
      { s with lastError := some e, lastFault := e.fault?, client := none,
               status := .disconnected }.notify b := by
  simp only [markLost, recordError, setStatus, dropConnection_fst]
  rfl

theorem abandon_fst (e : SessionError) (s : State κ) (w : ω) :
    (s.abandon b e w).1 =
      { s with lastError := some e, lastFault := e.fault?, client := none, plan := none,
               handler := none, status := .disconnected }.notify b := by
  simp only [abandon, recordError, setStatus, dropConnection_fst]
  rfl

theorem reset_fst (s : State κ) (w : ω) :
    (s.reset b w).1 = ({} : State κ).notify b := by
  simp only [reset, setStatus, dropConnection_fst]
  rfl

/-- Subscribing again changes the client and nothing else. -/
theorem restoreSubscriptions_fst {s : State κ} {client : κ} (h : s.client = some client) (w : ω) :
    (s.restoreSubscriptions b w).1 =
      { s with client := some (restoreAll b s.subscriptions client w).1 } := by
  simp only [restoreSubscriptions, h]

end State

end MqttLink

namespace MqttLink.Session

variable {ω κ δ φ : Type} (b : Backend ω κ δ φ)

/-! ## Exchanges -/

/-- A session whose client has been called. -/
def called (x : Session ω κ δ φ) (client : κ) (w : ω) : Session ω κ δ φ :=
  { x with outside := w, state := { x.state with client := some client } }

def exchanged (x : Session ω κ δ φ) (client : κ) (w : ω) (messages : List (Handler × Message)) :
    Session ω κ δ φ :=
  { x.called client w with delivered := x.delivered ++ messages }

variable {b} in
theorem pump_ok {now : Nat} {x y : Session ω κ δ φ} (h : x.pump b now = (.ok (), y)) :
    ∃ client client' w messages, x.state.client = some client ∧
      b.sync now client x.outside = (.ok (), messages, client', w) ∧ b.fault client' = none ∧
      y = (x.exchanged client' w messages).update (State.notify b) := by
  unfold pump at h
  split at h
  · simp at h
  · rename_i client hclient
    rcases hs : b.sync now client x.outside with ⟨result, messages, client', w⟩
    simp only [hs] at h
    split at h
    · simp at h
    · simp at h
    · rename_i hf
      simp only [Prod.mk.injEq, true_and] at h
      exact ⟨client, client', w, messages, hclient, hs, hf, h.symm⟩

variable {b} in
/-- An exchange fails by itself, or leaves a client that will not recover. -/
theorem pump_error {now : Nat} {x y : Session ω κ δ φ} {e : SessionError}
    (h : x.pump b now = (.error e, y)) (open_ : x.state.client.isSome) :
    ∃ client client' w messages f result, x.state.client = some client ∧
      b.sync now client x.outside = (result, messages, client', w) ∧
      (result = .error f ∨ result = .ok () ∧ b.fault client' = some f) ∧
      e = .protocol f "MQTT sync failed" ∧ y = x.exchanged client' w messages := by
  unfold pump at h
  split at h
  · simp_all
  · rename_i client hclient
    rcases hs : b.sync now client x.outside with ⟨result, messages, client', w⟩
    simp only [hs] at h
    split at h
    · rename_i f
      simp only [Prod.mk.injEq, Except.error.injEq] at h
      exact ⟨client, client', w, messages, f, _, hclient, hs, .inl rfl, h.1.symm, h.2.symm⟩
    · rename_i f hf
      simp only [Prod.mk.injEq, Except.error.injEq] at h
      exact ⟨client, client', w, messages, f, _, hclient, hs, .inr ⟨rfl, hf⟩, h.1.symm, h.2.symm⟩
    · simp at h

/-! ## The loop -/

/-- `y` is the session on which a cycle of `x` decides about another attempt: one without a
connection, or one that has just lost it. -/
inductive Deciding (now : Nat) (x : Session ω κ δ φ) : Session ω κ δ φ → Prop
  | lost {e : SessionError} {y : Session ω κ δ φ} (up : x.state.status = .connected)
      (failed : x.pump b now = (.error e, y)) : Deciding now x (y.act (State.markLost b e))
  | down (down : x.state.status ≠ .connected) : Deciding now x x

/-- All ways in which the loop can go on (`true`) or not. -/
inductive LoopStep (now : Nat) (x : Session ω κ δ φ) : Bool × Session ω κ δ φ → Prop
  /-- There is no loop, it has ended, or its time has not come. -/
  | stay : LoopStep now x (false, x)
  | block : LoopStep now x (false, x.block)
  | stop {l : Loop κ δ} (running : x.loop = some l) (stopping : l.stopping = true)
      (alive : l.phase ≠ .ended) : LoopStep now x (true, x.endLoop b l.phase)
  | exchange {awake : Bool} {y : Session ω κ δ φ} (loop : x.loop = some ⟨.cycling, awake, false⟩)
      (free : x.call.holdsState = false) (up : x.state.status = .connected)
      (went : x.pump b now = (.ok (), y)) :
      LoopStep now x (true, y.wait b now y.settings.syncInterval .resting)
  | schedule {awake : Bool} {y : Session ω κ δ φ} {attempt : Nat} {delay : UInt64}
      {plan : ConnectPlan} (loop : x.loop = some ⟨.cycling, awake, false⟩)
      (free : x.call.holdsState = false) (deciding : Deciding b now x y)
      (decided : y.settings.decide y.state.lastFault y.state.retries false = .proceed attempt delay)
      (planned : y.state.plan = some plan) :
      LoopStep now x (true, (y.update fun s => { s with retries := attempt }.notify b).wait b now
        delay.toNat (.backingOff · plan y.state.handler))
  | unplanned {awake : Bool} {y : Session ω κ δ φ} (loop : x.loop = some ⟨.cycling, awake, false⟩)
      (free : x.call.holdsState = false) (deciding : Deciding b now x y)
      (unplanned : y.state.plan = none) :
      LoopStep now x (true, (y.update (State.setStatus b .reconnectFailed)).setPhase .ended)
  | giveUp {awake : Bool} {y : Session ω κ δ φ} (loop : x.loop = some ⟨.cycling, awake, false⟩)
      (free : x.call.holdsState = false) (deciding : Deciding b now x y)
      (decided : ∀ attempt delay,
        y.settings.decide y.state.lastFault y.state.retries false ≠ .proceed attempt delay) :
      LoopStep now x (true, (y.update (State.setStatus b .reconnectFailed)).setPhase .ended)
  | rested {awake : Bool} {time : Appointment} (loop : x.loop = some ⟨.resting time, awake, false⟩)
      (due : time.due ≤ now) : LoopStep now x (true, x.setPhase .cycling)
  | redial {awake : Bool} {time : Appointment} {plan : ConnectPlan} {handler : Option Handler}
      (loop : x.loop = some ⟨.backingOff time plan handler, awake, false⟩) (due : time.due ≤ now)
      (free : x.call.holdsState = false) : LoopStep now x (true, x.redial b now plan handler)
  | dialOn {awake : Bool} {dial dial' : δ} {w : ω}
      (loop : x.loop = some ⟨.redialing dial, awake, false⟩)
      (polled : b.pollDial now dial x.outside = (.waiting dial', w)) :
      LoopStep now x (false, ({ x with outside := w }.setPhase (.redialing dial')).block)
  | dialed {awake : Bool} {dial : δ} {result : Except SessionError κ} {w : ω}
      (loop : x.loop = some ⟨.redialing dial, awake, false⟩)
      (polled : b.pollDial now dial x.outside = (.done result, w)) :
      LoopStep now x (true, { x with outside := w }.setPhase (.redialed result))
  | record {awake : Bool} {result : Except SessionError κ}
      (loop : x.loop = some ⟨.redialed result, awake, false⟩)
      (free : x.call.holdsState = false) : LoopStep now x (true, x.recordRedial b now result)

theorem decide_ne_stopRequested (s : Settings) (f : Option Fault) (retries : Nat) :
    s.decide f retries false ≠ .stopRequested := by
  unfold Settings.decide
  simp only [Bool.false_eq_true, if_false]
  split
  · simp
  · split <;> simp

theorem decide_eq_proceed {s : Settings} {f : Option Fault} {retries attempt : Nat}
    {delay : UInt64} : s.decide f retries false = .proceed attempt delay ↔
      f.all (·.retriable s.retryUnknown) = true ∧ retries < s.maxRetries.toNat ∧
        attempt = retries + 1 ∧ delay = s.backoff.delay retries := by
  unfold Settings.decide
  simp only [Bool.false_eq_true, if_false]
  split
  · rename_i f' h
    obtain ⟨rfl, hf⟩ := Option.filter_eq_some_iff.1 h
    simp_all
  · rename_i h
    rw [Option.filter_eq_none_iff] at h
    have hall : f.all (·.retriable s.retryUnknown) = true := by
      cases f <;> simp_all
    split
    · rename_i full
      simp [Nat.not_lt.2 full]
    · rename_i room
      rw [Settings.Decision.proceed.injEq]
      constructor
      · rintro ⟨rfl, rfl⟩
        exact ⟨hall, by omega, rfl, rfl⟩
      · rintro ⟨-, -, rfl, rfl⟩
        exact ⟨rfl, rfl⟩

variable {b} in
theorem Deciding.step {now : Nat} {x y : Session ω κ δ φ} {awake : Bool}
    (d : Deciding b now x y) (loop : x.loop = some ⟨.cycling, awake, false⟩)
    (free : x.call.holdsState = false) : LoopStep b now x (true, y.afterLoss b now) := by
  unfold afterLoss
  split
  · rename_i attempt delay decided
    split
    · rename_i unplanned
      exact .unplanned loop free d unplanned
    · rename_i plan planned
      exact .schedule loop free d decided planned
  · rename_i decided
    exact absurd decided (decide_ne_stopRequested _ _ _)
  · rename_i decided
    exact .giveUp loop free d (by simp [decided])
  · rename_i decided
    exact .giveUp loop free d (by simp [decided])

theorem loopStep_cycle (now : Nat) {x : Session ω κ δ φ} {awake : Bool}
    (loop : x.loop = some ⟨.cycling, awake, false⟩) (free : x.call.holdsState = false) :
    LoopStep b now x (true, x.cycle b now) := by
  unfold cycle
  split
  · rename_i up
    split
    · rename_i y went
      exact .exchange loop free up went
    · rename_i e y failed
      exact (Deciding.lost up failed).step loop free
  · rename_i down
    exact (Deciding.down down).step loop free

theorem loopStep (now : Nat) (x : Session ω κ δ φ) : LoopStep b now x (x.stepLoop b now) := by
  unfold stepLoop
  split
  · exact .stay
  · rename_i l running
    obtain ⟨phase, awake, stopping⟩ := l
    dsimp only
    split
    · exact .stay
    · rename_i alive
      split
      · rename_i asked
        exact .stop running asked alive
      · rename_i goes
        obtain rfl : stopping = false := by simpa using goes
        split
        · exact .stay
        · split
          · exact .block
          · rename_i free
            exact loopStep_cycle b now running (by simpa using free)
        · split
          · rename_i due
            exact .rested running due
          · exact .stay
        · split
          · rename_i due
            exact .redial running due.1 (by simpa using due.2)
          · exact .stay
        · split
          · rename_i polled
            exact .dialOn running polled
          · rename_i polled
            exact .dialed running polled
        · split
          · exact .block
          · rename_i free
            exact .record running (by simpa using free)

/-! ## The caller -/

/-- All ways in which the caller's operation can go on (`true`) or not. -/
inductive CallStep (now : Nat) (x : Session ω κ δ φ) : Bool × Session ω κ δ φ → Prop
  | stay : CallStep now x (false, x)
  | leave {goal : Goal} {client : κ} (call : x.call = .stopping goal)
      (up : x.state.status = .connected) (held : x.state.client = some client) :
      CallStep now x (true, x.sayGoodbye b now goal)
  | join {goal : Goal} (call : x.call = .stopping goal)
      (down : ¬ (x.state.status = .connected ∧ x.state.client.isSome)) :
      CallStep now x (true, { x with call := .joining goal })
  | leaveOn {goal : Goal} {farewell farewell' : φ} {w : ω} (call : x.call = .leaving goal farewell)
      (polled : b.pollLeave now farewell x.outside = (.waiting farewell', w)) :
      CallStep now x (false, { x with outside := w, call := .leaving goal farewell' })
  | left {goal : Goal} {farewell : φ} {client : κ} {w : ω} (call : x.call = .leaving goal farewell)
      (polled : b.pollLeave now farewell x.outside = (.done client, w)) :
      CallStep now x (true,
        { x with outside := w, state := { x.state with client := some client }, call := .joining goal })
  | clear {goal : Goal} (call : x.call = .joining goal)
      (past : ∀ l, x.loop = some l → l.phase = .ended) :
      CallStep now x (true, ({ x with loop := none }.act (State.reset b)).pursue b now goal)
  | dialOn {dial dial' : δ} {w : ω} (call : x.call = .dialing dial)
      (polled : b.pollDial now dial x.outside = (.waiting dial', w)) :
      CallStep now x (false, { x with outside := w, call := .dialing dial' })
  | dialed {dial : δ} {result : Except SessionError κ} {w : ω} (call : x.call = .dialing dial)
      (polled : b.pollDial now dial x.outside = (.done result, w)) :
      CallStep now x (true, { x with outside := w }.recordDial b result)

theorem callStep (now : Nat) (x : Session ω κ δ φ) : CallStep b now x (x.stepCall b now) := by
  unfold stepCall
  split
  · exact .stay
  · exact .stay
  · rename_i goal call
    by_cases h : x.state.status = .connected ∧ x.state.client.isSome
    · obtain ⟨up, open_⟩ := h
      obtain ⟨client, hclient⟩ := Option.isSome_iff_exists.1 open_
      exact .leave call up hclient
    · have : x.sayGoodbye b now goal = { x with call := .joining goal } := by
        unfold sayGoodbye
        split
        · simp_all
        · rfl
      rw [this]
      exact .join call h
  · rename_i call
    split
    · rename_i polled
      exact .leaveOn call polled
    · rename_i polled
      exact .left call polled
  · rename_i call
    split
    · rename_i none_
      exact .clear call (by simp_all)
    · rename_i ended
      refine .clear call fun l hl => ?_
      simpa [hl] using ended
    · exact .stay
  · rename_i call
    split
    · rename_i polled
      exact .dialOn call polled
    · rename_i polled
      exact .dialed call polled

variable {b} in
theorem stepCall_of_isOver {x : Session ω κ δ φ} (past : x.call.isOver = true) (now : Nat) :
    x.stepCall b now = (false, x) := by
  unfold stepCall
  split <;> simp_all [Call.isOver]

/-! ## Operations -/

/-- An operation is refused, succeeds, breaks the client, or fails on a client that goes on. -/
inductive OperateStep (op : Operation) (x : Session ω κ δ φ) :
    Except SessionError Unit × Session ω κ δ φ → Prop
  | refuse (e : SessionError) : OperateStep op x (.error e, x)
  | succeed {client client' : κ} {w : ω} (up : x.state.status = .connected)
      (held : x.state.client = some client)
      (ran : op.run b client x.outside = (.ok (), client', w)) :
      OperateStep op x (.ok (),
        (x.called client' w).update fun s => { s with subscriptions := op.remember s.subscriptions })
  | break {client client' : κ} {w : ω} {f : Fault} (up : x.state.status = .connected)
      (held : x.state.client = some client)
      (ran : op.run b client x.outside = (.error f, client', w)) (broken : (b.fault client').isSome) :
      OperateStep op x (.error (.protocol f op.failure),
        (x.called client' w).act (State.markLost b (.protocol f op.failure)))
  | fail {client client' : κ} {w : ω} {f : Fault} (up : x.state.status = .connected)
      (held : x.state.client = some client)
      (ran : op.run b client x.outside = (.error f, client', w)) (sound : b.fault client' = none) :
      OperateStep op x (.error (.protocol f op.failure),
        (x.called client' w).update (State.recordError b (.protocol f op.failure)))

theorem operateStep (op : Operation) (x : Session ω κ δ φ) :
    OperateStep b op x (x.operate b op) := by
  unfold operate
  split
  · rename_i client up open_
    split
    · exact .refuse _
    · rcases ran : op.run b client x.outside with ⟨result, client', w⟩
      dsimp only
      split
      · exact .succeed up open_ ran
      · split
        · rename_i broken
          exact .break up open_ ran (by simp [broken])
        · rename_i sound
          exact .fail up open_ ran sound
  · exact .refuse _

/-- Without a connection every operation is refused. -/
theorem operate_of_down (op : Operation) {x : Session ω κ δ φ} (down : x.state.status ≠ .connected) :
    (x.operate b op).2 = x := by
  have s := operateStep b op x
  generalize x.operate b op = r at s
  cases s with
  | refuse => rfl
  | succeed up | «break» up | fail up => exact absurd up down

/-! ## The settings stay -/

theorem pump_keeps (now : Nat) (x : Session ω κ δ φ) :
    (x.pump b now).2.settings = x.settings ∧ (x.pump b now).2.loop = x.loop ∧
      (x.pump b now).2.state.subscriptions = x.state.subscriptions := by
  unfold pump
  split
  · exact ⟨rfl, rfl, rfl⟩
  · dsimp only
    split <;> exact ⟨rfl, rfl, rfl⟩

variable {b}

theorem Deciding.keeps {now : Nat} {x y : Session ω κ δ φ} (d : Deciding b now x y) :
    y.settings = x.settings ∧ y.loop = x.loop ∧ y.state.subscriptions = x.state.subscriptions := by
  cases d with
  | down => exact ⟨rfl, rfl, rfl⟩
  | lost up failed =>
    have h := pump_keeps b now x
    rw [failed] at h
    simpa [State.markLost_fst] using h

theorem LoopStep.settings {now : Nat} {x : Session ω κ δ φ} {r : Bool × Session ω κ δ φ}
    (s : LoopStep b now x r) : r.2.settings = x.settings := by
  cases s with
  | exchange loop free up went =>
    have h := pump_keeps b now x
    rw [went] at h
    simpa using h.1
  | schedule loop free deciding decided planned => simpa using deciding.keeps.1
  | unplanned loop free deciding unplanned => exact deciding.keeps.1
  | giveUp loop free deciding decided => exact deciding.keeps.1
  | @record awake result loop free => cases result <;> simp [recordRedial]
  | stop running stopping alive => simp
  | stay | block | rested | redial | dialOn | dialed => rfl

theorem pursue_settings (now : Nat) (goal : Goal) (x : Session ω κ δ φ) :
    (x.pursue b now goal).settings = x.settings := by
  cases goal <;> rfl

theorem CallStep.settings {now : Nat} {x : Session ω κ δ φ} {r : Bool × Session ω κ δ φ}
    (s : CallStep b now x r) : r.2.settings = x.settings := by
  cases s with
  | leave call up held => simp [sayGoodbye, up, held]
  | clear call past => exact pursue_settings now _ _
  | @dialed dial result w call polled => cases result <;> rfl
  | stay | join | leaveOn | left | dialOn => rfl

theorem OperateStep.settings {op : Operation} {x : Session ω κ δ φ}
    {r : Except SessionError Unit × Session ω κ δ φ} (s : OperateStep b op x r) :
    r.2.settings = x.settings := by
  cases s <;> rfl

theorem tearDown_settings (now : Nat) (goal : Goal) (x : Session ω κ δ φ) :
    (x.tearDown b now goal).settings = x.settings := by
  unfold tearDown
  split
  · exact pursue_settings now goal x
  · rfl

@[simp] theorem Move.run_settings (m : Move ω) (x : Session ω κ δ φ) :
    (m.run b x).settings = x.settings := by
  cases m with
  | loop now => exact (loopStep b now x).settings
  | call now => exact (callStep b now x).settings
  | connect now request handler =>
    change (x.connect b now request handler).settings = _
    unfold Session.connect
    split
    · rfl
    · exact tearDown_settings now _ x
  | disconnect now => exact tearDown_settings now _ x
  | operate op => exact (operateStep b op x).settings
  | outside | collect | rest => rfl

/-! ## What is remembered was subscribed -/

theorem mem_remembered {topic : String} {qos : QoS} {subscriptions : List (String × QoS)}
    {s : String × QoS} (h : s ∈ State.remembered topic qos subscriptions) :
    s ∈ subscriptions ∨ s = (topic, qos) := by
  induction subscriptions with
  | nil => exact .inr (List.mem_singleton.1 h)
  | cons first rest ih =>
    unfold State.remembered at h
    split at h
    · rename_i same
      rcases List.mem_cons.1 h with rfl | h
      · exact .inr (by rw [same])
      · exact .inl (List.mem_cons_of_mem _ h)
    · rcases List.mem_cons.1 h with rfl | h
      · exact .inl List.mem_cons_self
      · exact (ih h).imp_left (List.mem_cons_of_mem _)

theorem LoopStep.subscriptions {now : Nat} {x : Session ω κ δ φ} {r : Bool × Session ω κ δ φ}
    (s : LoopStep b now x r) : r.2.state.subscriptions = x.state.subscriptions := by
  cases s with
  | exchange loop free up went =>
    have h := pump_keeps b now x
    rw [went] at h
    simpa using h.2.2
  | schedule loop free deciding decided planned => simpa using deciding.keeps.2.2
  | unplanned loop free deciding unplanned => simpa [State.setStatus] using deciding.keeps.2.2
  | giveUp loop free deciding decided => simpa [State.setStatus] using deciding.keeps.2.2
  | @record awake result loop free =>
    cases result with
    | ok client =>
      have h := State.restoreSubscriptions_fst b (s := x.state.install b client) rfl x.outside
      change (State.restoreSubscriptions b (x.state.install b client) x.outside).1.subscriptions = _
      rw [h]
      rfl
    | error e => simp [recordRedial, State.recordError, State.setStatus]
  | stop running stopping alive => simp
  | redial loop due free =>
    change (x.state.dropConnection b x.outside).1.subscriptions = _
    rw [State.dropConnection_fst]
  | stay | block | rested | dialOn | dialed => rfl

theorem pursue_subscriptions (now : Nat) (goal : Goal) (x : Session ω κ δ φ) :
    (x.pursue b now goal).state.subscriptions = x.state.subscriptions ∨
      (x.pursue b now goal).state.subscriptions = [] := by
  cases goal with
  | disconnect => exact .inl rfl
  | connect => exact .inr rfl

theorem tearDown_subscriptions (now : Nat) (goal : Goal) (x : Session ω κ δ φ) :
    (x.tearDown b now goal).state.subscriptions = x.state.subscriptions ∨
      (x.tearDown b now goal).state.subscriptions = [] := by
  unfold tearDown
  split
  · exact pursue_subscriptions now goal x
  · exact .inl rfl

theorem CallStep.subscriptions {now : Nat} {x : Session ω κ δ φ} {r : Bool × Session ω κ δ φ}
    (s : CallStep b now x r) :
    r.2.state.subscriptions = x.state.subscriptions ∨ r.2.state.subscriptions = [] := by
  cases s with
  | leave call up held => exact .inl (by simp [sayGoodbye, up, held])
  | @clear goal call past =>
    have cleared := State.reset_fst b x.state x.outside
    rcases pursue_subscriptions now goal ({ x with loop := none }.act (State.reset b)) with h | h
    · exact .inr (h.trans (by rw [act_state, cleared]; rfl))
    · exact .inr h
  | @dialed dial result w call polled =>
    cases result with
    | ok client => exact .inl rfl
    | error e => exact .inl (by simp [recordDial, State.abandon_fst])
  | stay | join | leaveOn | left | dialOn => exact .inl rfl

/-- An operation adds at most the topic that it has just subscribed. -/
theorem OperateStep.subscriptions {op : Operation} {x : Session ω κ δ φ}
    {r : Except SessionError Unit × Session ω κ δ φ} (s : OperateStep b op x r) {topic : String}
    {qos : QoS} (mem : (topic, qos) ∈ r.2.state.subscriptions) :
    (topic, qos) ∈ x.state.subscriptions ∨
      ∃ client client' w, b.subscribe topic qos client x.outside = (.ok (), client', w) := by
  cases s with
  | refuse => exact .inl mem
  | @succeed client client' w up held ran =>
    cases op with
    | publish m qos' retain => exact .inl mem
    | unsubscribe topic' => exact .inl (List.mem_filter.1 mem).1
    | subscribe topic' qos' =>
      rcases mem_remembered mem with old | new
      · exact .inl old
      · cases new
        exact .inr ⟨client, client', w, ran⟩
  | «break» up held ran broken => exact .inl (by simpa [State.markLost_fst, called] using mem)
  | fail up held ran sound => exact .inl (by simpa [State.recordError, called] using mem)

theorem Move.run_subscriptions {m : Move ω} {x : Session ω κ δ φ} {topic : String} {qos : QoS}
    (mem : (topic, qos) ∈ (m.run b x).state.subscriptions) :
    (topic, qos) ∈ x.state.subscriptions ∨
      ∃ client client' w, b.subscribe topic qos client x.outside = (.ok (), client', w) := by
  have kept : ∀ {y : Session ω κ δ φ},
      y.state.subscriptions = x.state.subscriptions ∨ y.state.subscriptions = [] →
      (topic, qos) ∈ y.state.subscriptions → (topic, qos) ∈ x.state.subscriptions := by
    intro y h mem
    rcases h with h | h
    · exact h ▸ mem
    · simp [h] at mem
  cases m with
  | loop now => exact .inl (kept (.inl (loopStep b now x).subscriptions) mem)
  | call now => exact .inl (kept (callStep b now x).subscriptions mem)
  | connect now request handler =>
    have h : (x.connect b now request handler).state.subscriptions = x.state.subscriptions ∨
        (x.connect b now request handler).state.subscriptions = [] := by
      unfold Session.connect
      split
      · exact .inl rfl
      · exact tearDown_subscriptions now _ x
    exact .inl (kept h mem)
  | disconnect now => exact .inl (kept (tearDown_subscriptions now _ x) mem)
  | operate op => exact (operateStep b op x).subscriptions mem
  | outside | collect | rest => exact .inl mem

end MqttLink.Session
