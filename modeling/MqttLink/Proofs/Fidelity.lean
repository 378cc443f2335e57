import MqttLink.Proofs.Subscriptions

/-!
# Fidelity to the connect

A session dials again and again on the terms of its last connect, which it keeps with everything else that
callers and losses change. Main statement: no attempt departs from these terms before the next connect or
disconnect, neither in whom it calls nor in the handshake or in the client that comes of it.
-/

namespace MqttLink

variable {ω κ δ φ : Type}

/-! ## Terms -/

/-- What an attempt is made with. -/
structure Terms where
  settings : Settings
  plan : ConnectPlan
  handler : Option Handler
  deriving DecidableEq

/-- Whom an attempt on these terms wants to reach, and for how long it would wait. -/
def Terms.dialed (t : Terms) : Dialed := ⟨t.plan.host, t.plan.port, t.settings.connectTimeout⟩

def DialRecord.terms (record : DialRecord ω) : Terms := ⟨record.settings, record.plan, record.handler⟩

/-- What it means for an attempt and for a client to be bound to terms. They stay so. -/
structure Binding (b : Backend ω κ δ φ) where
  Attempt : Terms → δ → Prop
  Client : Terms → κ → Prop
  dial : ∀ now (t : Terms) w, Attempt t (b.dial now t.settings t.plan t.handler w).1
  dialOn : ∀ {t now d w d' w'}, Attempt t d → b.pollDial now d w = (.waiting d', w') → Attempt t d'
  dialed : ∀ {t now d w client w'}, Attempt t d → b.pollDial now d w = (.done (.ok client), w') →
    Client t client
  operate : ∀ (op : Operation) {t client w result client' w'}, Client t client →
    op.run b client w = (result, client', w') → Client t client'
  sync : ∀ {t now client w result messages client' w'}, Client t client →
    b.sync now client w = (result, messages, client', w') → Client t client'

namespace Session

variable {b : Backend ω κ δ φ} {x y : Session ω κ δ φ}

/-! ## What the loop keeps -/

theorem pump_plan_handler (now : Nat) (x : Session ω κ δ φ) :
    (x.pump b now).2.state.plan = x.state.plan ∧ (x.pump b now).2.state.handler = x.state.handler := by
  unfold pump
  split
  · exact ⟨rfl, rfl⟩
  · dsimp only
    split <;> exact ⟨rfl, rfl⟩

theorem Deciding.plan_handler {now : Nat} (d : Deciding b now x y) :
    y.state.plan = x.state.plan ∧ y.state.handler = x.state.handler := by
  cases d with
  | down => exact ⟨rfl, rfl⟩
  | lost up failed =>
    have kept := pump_plan_handler (b := b) now x
    rw [failed] at kept
    simpa [State.markLost_fst] using kept

/-- The loop reads the plan and the handler on record, and never changes them. -/
theorem LoopStep.plan_handler {now : Nat} {r : Bool × Session ω κ δ φ} (s : LoopStep b now x r) :
    r.2.state.plan = x.state.plan ∧ r.2.state.handler = x.state.handler := by
  cases s with
  | exchange loop free up went =>
    have kept := pump_plan_handler (b := b) now x
    rw [went] at kept
    simpa using kept
  | schedule loop free deciding => simpa using deciding.plan_handler
  | unplanned loop free deciding | giveUp loop free deciding =>
    simpa [State.setStatus] using deciding.plan_handler
  | @record awake result loop free =>
    cases result with
    | ok client =>
      have restored := State.restoreSubscriptions_fst b (s := x.state.install b client) rfl x.outside
      change (State.restoreSubscriptions b (x.state.install b client) x.outside).1.plan = _ ∧
        (State.restoreSubscriptions b (x.state.install b client) x.outside).1.handler = _
      rw [restored]
      exact ⟨rfl, rfl⟩
    | error e => simp [recordRedial, State.recordError, State.setStatus]
  | stop running stopping alive => simp
  | redial loop due free => simp [Session.redial, State.setStatus, State.dropConnection_fst]
  | stay | block | rested | dialOn | dialed => exact ⟨rfl, rfl⟩

end Session

/-! ## A session that is served on terms -/

namespace Binding

variable {b : Backend ω κ δ φ} (B : Binding b) {t : Terms} {x y : Session ω κ δ φ}

/-- The attempt that the loop is about to make, or makes, or has made. -/
def OfPhase (t : Terms) : Phase κ δ → Prop
  | .backingOff _ plan handler => plan = t.plan ∧ handler = t.handler
  | .redialing d => B.Attempt t d
  | .redialed (.ok client) => B.Client t client
  | .redialed (.error _) | .cycling | .resting _ | .ended => True

/-- As long as there is a loop, everything that it goes by is bound to the terms. -/
structure Served (t : Terms) (x : Session ω κ δ φ) : Prop where
  settings : x.settings = t.settings
  record : x.loop.isSome → x.state.plan = some t.plan ∧ x.state.handler = t.handler
  phase : ∀ l, x.loop = some l → B.OfPhase t l.phase
  client : ∀ client, x.state.client = some client → B.Client t client

variable {B}

theorem ofPhase_home {p : Phase κ δ} (home : p.isAway = false) : B.OfPhase t p := by
  cases p with
  | cycling | resting | ended => trivial
  | backingOff | redialing | redialed => cases home

/-- The loop goes on to a place that is bound to the terms as well. -/
theorem Served.phase_of_map (served : B.Served t x) {g : Loop κ δ → Loop κ δ}
    (loop : y.loop = x.loop.map g)
    (next : ∀ l, x.loop = some l → B.OfPhase t l.phase → B.OfPhase t (g l).phase) :
    ∀ l, y.loop = some l → B.OfPhase t l.phase := by
  intro l running
  rw [loop, Option.map_eq_some_iff] at running
  obtain ⟨l', running, rfl⟩ := running
  exact next l' running (served.phase l' running)

theorem Served.pump (served : B.Served t x) (now : Nat) :
    ∀ client, (x.pump b now).2.state.client = some client → B.Client t client := by
  unfold Session.pump
  split
  · exact served.client
  · rename_i client held
    rcases synced : b.sync now client x.outside with ⟨result, messages, client', w⟩
    have bound := B.sync (served.client client held) synced
    dsimp only
    split <;> (intro c is; cases is; exact bound)

theorem Served.deciding {now : Nat} (served : B.Served t x) (d : Session.Deciding b now x y) :
    ∀ client, y.state.client = some client → B.Client t client := by
  cases d with
  | down => exact served.client
  | lost up failed => simp [State.markLost_fst]

theorem client_restoreAll (subscriptions : List (String × QoS)) {client : κ} {w : ω}
    (bound : B.Client t client) : B.Client t (State.restoreAll b subscriptions client w).1 := by
  induction subscriptions generalizing client w with
  | nil => exact bound
  | cons s rest ih =>
    obtain ⟨topic, qos⟩ := s
    unfold State.restoreAll
    split
    · rename_i client' w' subscribed
      exact ih (B.operate (.subscribe topic qos) bound subscribed)
    · rename_i failed
      exact B.operate (.subscribe topic qos) bound failed

/-- The client after a turn of the loop. -/
theorem Served.client_loopStep {now : Nat} {r : Bool × Session ω κ δ φ} (served : B.Served t x)
    (s : Session.LoopStep b now x r) : ∀ client, r.2.state.client = some client → B.Client t client := by
  cases s with
  | stay | block | rested | dialOn | dialed => exact served.client
  | stop => simpa using served.client
  | exchange loop free up went =>
    have pumped := served.pump now
    rw [went] at pumped
    simpa using pumped
  | schedule loop free deciding => simpa using served.deciding deciding
  | unplanned loop free deciding | giveUp loop free deciding =>
    simpa [State.setStatus] using served.deciding deciding
  | redial => simp [Session.redial, State.setStatus, State.dropConnection_fst]
  | @record awake result loop free =>
    cases result with
    | ok client =>
      have bound : B.Client t client := served.phase _ loop
      have restored := State.restoreSubscriptions_fst b (s := x.state.install b client) rfl x.outside
      intro c is
      change (State.restoreSubscriptions b (x.state.install b client) x.outside).1.client = _ at is
      rw [restored] at is
      cases is
      exact client_restoreAll _ bound
    | error e => simpa [Session.recordRedial, State.recordError, State.setStatus] using served.client

/-- Where the loop stands after its turn. -/
theorem Served.phase_loopStep {now : Nat} {r : Bool × Session ω κ δ φ} (served : B.Served t x)
    (s : Session.LoopStep b now x r) : ∀ l, r.2.loop = some l → B.OfPhase t l.phase := by
  have waits : ∀ {time : Nat} {p : Appointment → Phase κ δ} {z : Session ω κ δ φ}, z.loop = x.loop →
      (∀ a, B.OfPhase t (p a)) → ∀ l, (z.wait b now time p).loop = some l → B.OfPhase t l.phase := by
    intro time p z same phase
    obtain ⟨awake, waits⟩ := Session.wait_loop b now time p z
    rw [same] at waits
    exact served.phase_of_map waits fun _ _ _ => phase _
  cases s with
  | stay => exact served.phase
  | block => exact served.phase_of_map rfl fun _ _ bound => bound
  | stop => exact served.phase_of_map (Session.endLoop_loop ..) fun _ _ _ => trivial
  | exchange loop free up went =>
    have kept := (Session.pump_keeps b now x).2.1
    rw [went] at kept
    exact waits kept fun _ => trivial
  | schedule loop free deciding decided planned =>
    have record := served.record (by rw [loop]; rfl)
    rw [← deciding.plan_handler.1, ← deciding.plan_handler.2, planned] at record
    exact waits deciding.keeps.2.1 fun _ => ⟨Option.some.inj record.1, record.2⟩
  | unplanned loop free deciding | giveUp loop free deciding =>
    refine served.phase_of_map (g := fun l => { l with phase := .ended, awake := false }) ?_
      fun _ _ _ => trivial
    rw [Session.setPhase_loop, Session.update_loop, deciding.keeps.2.1]
    rfl
  | rested => exact served.phase_of_map rfl fun _ _ _ => trivial
  | @redial awake time plan handler loop due free =>
    obtain ⟨rfl, rfl⟩ : plan = t.plan ∧ handler = t.handler := served.phase _ loop
    refine served.phase_of_map rfl fun _ _ _ => ?_
    have dialed := B.dial now t
    rw [← served.settings] at dialed
    exact dialed _
  | dialOn loop polled =>
    have next := B.dialOn (served.phase _ loop) polled
    exact served.phase_of_map (Option.map_map ..) fun _ _ _ => next
  | @dialed awake dial result w loop polled =>
    refine served.phase_of_map rfl fun _ _ _ => ?_
    cases result with
    | ok client => exact B.dialed (served.phase _ loop) polled
    | error e => trivial
  | @record awake result loop =>
    cases result with
    | ok client => exact served.phase_of_map rfl fun _ _ _ => trivial
    | error e => exact waits rfl fun _ => trivial

theorem Served.loopStep {now : Nat} {r : Bool × Session ω κ δ φ} (served : B.Served t x)
    (s : Session.LoopStep b now x r) : B.Served t r.2 where
  settings := s.settings.trans served.settings
  record running := by
    rw [s.plan_handler.1, s.plan_handler.2]
    exact served.record (s.isSome ▸ running)
  phase := served.phase_loopStep s
  client := served.client_loopStep s

theorem Served.operateStep {op : Operation} {r : Except SessionError Unit × Session ω κ δ φ}
    (served : B.Served t x) (s : Session.OperateStep b op x r) : B.Served t r.2 := by
  constructor
  case settings => exact s.settings.trans served.settings
  case record =>
    rw [s.loop]
    cases s with
    | refuse | succeed | fail => exact served.record
    | «break» => simpa [State.markLost_fst, Session.called] using served.record
  case phase => rw [s.loop]; exact served.phase
  case client =>
    intro c is
    cases s with
    | refuse => exact served.client c is
    | succeed up held ran | fail up held ran sound =>
      cases is
      exact B.operate op (served.client _ held) ran
    | «break» => simp [State.markLost_fst] at is

/-! ## Since a connect -/

variable (B) in
/-- Where a session stands since a connect on these terms. -/
inductive Follows (t : Terms) (x : Session ω κ δ φ) : Prop
  | tearingDown (settings : x.settings = t.settings)
      (goal : x.call.goal? = some (.connect t.plan t.handler))
  | dialing {d : δ} (settings : x.settings = t.settings) (call : x.call = .dialing d)
      (attempt : B.Attempt t d) (loop : x.loop = none) (plan : x.state.plan = some t.plan)
      (handler : x.state.handler = t.handler)
  | settled (call : x.call.isOver = true) (served : B.Served t x)

theorem follows_dialFor (settings : x.settings = t.settings) (loop : x.loop = none) (now : Nat) :
    B.Follows t (x.dialFor b now t.plan t.handler) := by
  have dialed := B.dial now t
  rw [← settings] at dialed
  exact .dialing settings rfl (dialed _) loop rfl rfl

theorem follows_tearDown (settings : x.settings = t.settings) (now : Nat) :
    B.Follows t (x.tearDown b now (.connect t.plan t.handler)) := by
  unfold Session.tearDown
  split
  · rename_i nothing
    exact follows_dialFor settings (by simpa using nothing.2) now
  · exact .tearingDown settings rfl

theorem Follows.callStep {now : Nat} {r : Bool × Session ω κ δ φ} (follows : B.Follows t x)
    (s : Session.CallStep b now x r) : B.Follows t r.2 := by
  cases follows with
  | settled call served =>
    cases s with
    | stay => exact .settled call served
    | leave call' | join call' | leaveOn call' | left call' | clear call' | dialOn call' | dialed call' =>
      rw [call'] at call
      cases call
  | tearingDown settings goal =>
    cases s with
    | stay => exact .tearingDown settings goal
    | leave call up held =>
      rw [call] at goal
      refine .tearingDown ?_ ((Session.sayGoodbye_goal? ..).trans goal)
      simpa [Session.sayGoodbye, up, held] using settings
    | join call | leaveOn call | left call =>
      rw [call] at goal
      exact .tearingDown settings goal
    | clear call past =>
      rw [call] at goal
      cases goal
      exact follows_dialFor (x := { x with loop := none }.act (State.reset b)) settings rfl now
    | dialOn call | dialed call =>
      rw [call] at goal
      cases goal
  | dialing settings call attempt loop plan handler =>
    cases s with
    | stay => exact .dialing settings call attempt loop plan handler
    | dialOn call' polled =>
      cases call.symm.trans call'
      exact .dialing settings rfl (B.dialOn attempt polled) loop plan handler
    | @dialed d result w call' polled =>
      cases call.symm.trans call'
      cases result with
      | ok client =>
        refine .settled rfl ⟨settings, fun _ => ⟨plan, handler⟩, ?_, ?_⟩
        · rintro l ⟨⟩
          trivial
        · rintro c ⟨⟩
          exact B.dialed attempt polled
      | error e =>
        refine .settled rfl ⟨settings, ?_, ?_, ?_⟩ <;> simp [Session.recordDial, State.abandon_fst, loop]
    | leave call' | join call' | leaveOn call' | left call' | clear call' =>
      cases call.symm.trans call'

/-- A connect that was refused has changed nothing. -/
theorem refused_of_not_restarts {now : Nat} {request : ConnectRequest} {handler : Option Handler}
    (unasked : (Session.Move.connect now request handler : Session.Move ω).restarts = false) :
    ∃ e, x.connect b now request handler = { x with call := .finished (.error e) } := by
  unfold Session.connect
  cases valid : request.validate with
  | error e => exact ⟨e, rfl⟩
  | ok =>
    rw [Session.Move.restarts, valid] at unasked
    cases unasked

theorem Follows.move {m : Session.Move ω} (follows : B.Follows t x) (allowed : m.Allowed x)
    (unasked : m.restarts = false) : B.Follows t (m.run b x) := by
  cases m with
  | call now => exact follows.callStep (Session.callStep b now x)
  | disconnect => cases unasked
  | loop now =>
    have s := Session.loopStep b now x
    cases follows with
    | tearingDown settings goal => exact .tearingDown (s.settings.trans settings) (s.call ▸ goal)
    | settled call served => exact .settled (s.call ▸ call) (served.loopStep s)
    | dialing settings call attempt loop plan handler =>
      rw [Session.Move.run, Session.stepLoop_of_none loop]
      exact .dialing settings call attempt loop plan handler
  | operate op =>
    have s := Session.operateStep b op x
    cases follows with
    | tearingDown settings goal => exact .tearingDown (s.settings.trans settings) (s.call ▸ goal)
    | settled call served => exact .settled (s.call ▸ call) (served.operateStep s)
    | dialing settings call => simp [Session.Move.Allowed, call, Call.holdsState] at allowed
  | connect now request handler =>
    obtain ⟨e, refused⟩ := refused_of_not_restarts (b := b) (x := x) unasked
    rw [Session.Move.run, refused]
    cases follows with
    | tearingDown settings goal =>
      exact absurd allowed (by simp [Session.Move.Allowed, Call.not_isOver_of_goal goal])
    | settled call served => exact .settled rfl ⟨served.settings, served.record, served.phase, served.client⟩
    | dialing settings call => simp [Session.Move.Allowed, call, Call.isOver] at allowed
  | outside | collect =>
    cases follows with
    | tearingDown settings goal => exact .tearingDown settings goal
    | settled call served =>
      exact .settled call ⟨served.settings, served.record, served.phase, served.client⟩
    | dialing settings call attempt loop plan handler =>
      exact .dialing settings call attempt loop plan handler
  | rest =>
    cases follows with
    | tearingDown settings goal =>
      exact absurd allowed (by simp [Session.Move.Allowed, Call.not_isOver_of_goal goal])
    | settled call served => exact .settled rfl ⟨served.settings, served.record, served.phase, served.client⟩
    | dialing settings call => simp [Session.Move.Allowed, call, Call.isOver] at allowed

end Binding

/-! ## Attempts on record -/

namespace Session

/-- After any moves that leave the record alone and do not ask for the end of the session. -/
inductive Meanwhile (b : Backend ω κ δ φ) (x : Session (Logged ω) κ δ φ) :
    Session (Logged ω) κ δ φ → Prop
  | start : Meanwhile b x x
  | move {y : Session (Logged ω) κ δ φ} {m : Move (Logged ω)} (run : Meanwhile b x y)
      (allowed : m.Allowed y) (kept : m.KeepsRecord y) (stays : m.restarts = false) :
      Meanwhile b x (m.run b.logged y)

/-- The move by which an attempt goes on. -/
inductive Polls (x : Session ω κ δ φ) : Move ω → δ → Prop
  | loop {d : δ} {awake : Bool} (loop : x.loop = some ⟨.redialing d, awake, false⟩) (now : Nat) :
      Polls x (.loop now) d
  | call {d : δ} (call : x.call = .dialing d) (now : Nat) : Polls x (.call now) d

end Session

namespace Binding

variable {b : Backend ω κ δ φ} {B : Binding b} {t : Terms}

/-- The record changes nothing about what is bound. -/
def logged (B : Binding b) : Binding b.logged where
  Attempt := B.Attempt
  Client := B.Client
  dial now t w := B.dial now t w.outside
  dialOn {t now d w d' w'} bound polled := by
    rcases went : b.pollDial now d w.outside with ⟨r, outside⟩
    simp only [Backend.logged, went, Prod.map, id, Prod.mk.injEq] at polled
    obtain ⟨rfl, -⟩ := polled
    exact B.dialOn bound went
  dialed {t now d w client w'} bound polled := by
    rcases went : b.pollDial now d w.outside with ⟨r, outside⟩
    simp only [Backend.logged, went, Prod.map, id, Prod.mk.injEq] at polled
    obtain ⟨rfl, -⟩ := polled
    exact B.dialed bound went
  operate op {t client w result client' w'} bound ran := by
    rcases went : op.run b client w.outside with ⟨r, c, outside⟩
    rw [Operation.run_logged, went] at ran
    cases ran
    exact B.operate op bound went
  sync {t now client w result messages client' w'} bound synced := by
    rcases went : b.sync now client w.outside with ⟨r, m, c, outside⟩
    simp only [Backend.logged, went, Prod.map, id, Prod.mk.injEq] at synced
    obtain ⟨-, -, rfl, -⟩ := synced
    exact B.sync bound went

variable {x y : Session (Logged ω) κ δ φ}

theorem Follows.begins {m : Session.Move (Logged ω)} {record : DialRecord ω}
    (follows : B.logged.Follows t x) (inv : Session.Inv x) (begins : Session.Begins b x m record)
    (unconnected : m.isConnect = false) : record.terms = t := by
  cases begins with
  | unused => cases unconnected
  | redial loop =>
    cases follows with
    | tearingDown settings goal =>
      -- A loop that was told to stop does not dial.
      have asked := inv.asked _ loop
      rw [Call.not_isOver_of_goal goal] at asked
      cases asked
    | dialing settings call attempt none_ => simp [none_] at loop
    | settled call served =>
      obtain ⟨rfl, rfl⟩ := served.phase _ loop
      exact congrArg (Terms.mk · t.plan t.handler) served.settings
  | cleared call past =>
    cases follows with
    | tearingDown settings goal =>
      rw [call] at goal
      cases goal
      exact congrArg (Terms.mk · t.plan t.handler) settings
    | dialing settings call' => cases call.symm.trans call'
    | settled call' => simp [call, Call.isOver] at call'

theorem Follows.dials {m : Session.Move (Logged ω)} (follows : B.logged.Follows t x)
    (inv : Session.Inv x) (kept : m.KeepsRecord x) (unasked : m.restarts = false) :
    (m.run b.logged x).outside.dials = x.outside.dials ∨
    ∃ record, record.terms = t ∧ (m.run b.logged x).outside.dials = x.outside.dials ++ [record] := by
  by_cases connect : m.isConnect
  · cases m with
    | connect now request handler =>
      obtain ⟨e, refused⟩ := refused_of_not_restarts (b := b.logged) (x := x) unasked
      rw [Session.Move.run, refused]
      exact .inl rfl
    | _ => cases connect
  · rcases Session.dials_move (b := b) kept with same | ⟨record, begins, more⟩
    · exact .inl same
    · exact .inr ⟨record, follows.begins inv begins (by simpa using connect), more⟩

theorem Follows.polls {m : Session.Move (Logged ω)} {d : δ} (follows : B.logged.Follows t x)
    (inv : Session.Inv x) (polls : Session.Polls x m d) : B.Attempt t d := by
  cases polls with
  | loop loop =>
    cases follows with
    | tearingDown settings goal =>
      have asked := inv.asked _ loop
      rw [Call.not_isOver_of_goal goal] at asked
      cases asked
    | dialing settings call attempt none_ => simp [none_] at loop
    | settled call served => exact served.phase _ loop
  | call call =>
    cases follows with
    | tearingDown settings goal => simp [call, Call.goal?] at goal
    | dialing settings call' attempt =>
      cases call.symm.trans call'
      exact attempt
    | settled call' => simp [call, Call.isOver] at call'

/-- Since a connect the session follows its terms, and every attempt on record was made on them. -/
theorem follows_meanwhile (B : Binding b) {now : Nat} {request : ConnectRequest} {handler : Option Handler}
    (r : Session.Reachable b.logged x) (free : x.call.isOver = true) (valid : request.validate = .ok ())
    (run : Session.Meanwhile b (x.connect b.logged now request handler) y) :
    Session.Reachable b.logged y ∧ B.logged.Follows ⟨x.settings, request.plan, handler⟩ y ∧
      ∃ new, y.outside.dials = x.outside.dials ++ new ∧
        ∀ record ∈ new, record.terms = ⟨x.settings, request.plan, handler⟩ := by
  induction run with
  | start =>
    refine ⟨r.move (m := .connect now request handler) free, ?_, ?_⟩
    · unfold Session.connect
      rw [valid]
      exact follows_tearDown (t := ⟨x.settings, request.plan, handler⟩) rfl now
    · rcases Session.dials_move (b := b) (x := x) (m := .connect now request handler) trivial with
        same | ⟨record, begins, more⟩
      · exact ⟨[], same.trans (List.append_nil _).symm, by simp⟩
      · cases begins
        exact ⟨_, more, by simp [DialRecord.terms]⟩
  | @move y m run allowed kept stays ih =>
    obtain ⟨ry, follows, new, dials, faithful⟩ := ih
    refine ⟨ry.move allowed, follows.move allowed stays, ?_⟩
    rcases follows.dials ry.inv kept stays with same | ⟨record, terms, more⟩
    · exact ⟨new, same.trans dials, faithful⟩
    · refine ⟨new ++ [record], by rw [more, dials, List.append_assoc], ?_⟩
      intro record' mem
      rcases List.mem_append.1 mem with old | last
      · exact faithful record' old
      · rwa [List.mem_singleton.1 last]

end Binding

/-! ## Handshakes -/

namespace Lines

variable {t : Terms} {now : Nat} {ls : Lines}

/-- A new client on a new link introduces itself on these terms, and goes on as far as it can. -/
def introduce (now : Nat) (t : Terms) (acts : List Act) (ls : Lines) :
    Progress Dial (Except SessionError Speaker) × Lines :=
  let socket := ls.links.size
  let ls := { ls with links := ls.links.push (acts.foldl Link.act {}) }
  let client := MqttLink.Client.new t.settings.buffers.send.toNat t.settings.buffers.recv.toNat
    t.handler.isSome now
  match client.greet now t.plan.options t.settings.connectTimeout with
  | (some (.ok handshake), client) => pollShaking now handshake none ⟨client, socket, t.handler⟩ ls
  | (some (.error f), _) => (.done (.error (.protocol f "MQTT connect failed")), ls.close socket)
  | (none, _) => (.waiting .stranded, ls.close socket)

/-- Until a client introduces itself, an attempt holds the terms on which it will. -/
def Dial.On (t : Terms) : Dial → Prop
  | .ringing _ _ settings plan handler | .unanswered settings plan handler =>
    t = ⟨settings, plan, handler⟩
  | .shaking _ _ s => s.handler = t.handler
  | .failed _ | .stranded => True

def On (t : Terms) : Progress Dial (Except SessionError Speaker) → Prop
  | .waiting d => d.On t
  | .done (.ok s) => s.handler = t.handler
  | .done (.error _) => True

theorem onLink_keeps {α : Type} {work : MqttLink.Client → Link → α × MqttLink.Client × Link}
    {s s' : Speaker} {result : α} {ls' : Lines} (worked : onLink work s ls = (result, s', ls')) :
    s'.handler = s.handler ∧ ls'.links.size = ls.links.size := by
  simp only [onLink, Prod.mk.injEq] at worked
  obtain ⟨-, rfl, rfl⟩ := worked
  simp [change]

theorem on_pollShaking {s : Speaker} (on : s.handler = t.handler) (h : Handshake) (number : Option Nat) :
    On t (pollShaking now h number s ls).1 := by
  unfold pollShaking
  split
  · rename_i h' s' ls' worked
    have same := (onLink_keeps worked).1.trans on
    split <;> exact same
  · rename_i s' ls' worked
    exact (onLink_keeps worked).1.trans on
  · trivial

theorem takeAnswer_link (acts : List Act) :
    ls.takeAnswer now (.link acts) t.settings t.plan t.handler = ls.introduce now t acts := by
  rcases greeted : (MqttLink.Client.new t.settings.buffers.send.toNat t.settings.buffers.recv.toNat
    t.handler.isSome now).greet now t.plan.options t.settings.connectTimeout with ⟨result, client⟩
  rcases result with _ | _ | h
  all_goals simp only [takeAnswer, pickUp, introduce, greeted]

theorem on_takeAnswer (answer : Answer) :
    On t (ls.takeAnswer now answer t.settings t.plan t.handler).1 := by
  cases answer with
  | refused | unresolved => trivial
  | link acts =>
    rw [takeAnswer_link]
    unfold introduce
    dsimp only
    split
    · exact on_pollShaking rfl _ _
    · trivial
    · trivial

theorem on_pollDial {d : Dial} (on : d.On t) : On t (pollDial now d ls).1 := by
  unfold pollDial
  split
  · trivial
  · trivial
  · exact on_pollShaking on _ _
  · obtain rfl := on
    split
    · exact rfl
    · exact on_takeAnswer _
  · obtain rfl := on
    split
    · exact rfl
    · exact on_takeAnswer _

/-- A client is bound by its handler: it has no other to give messages to. -/
def binding : Binding backend where
  Attempt := Dial.On
  Client t s := s.handler = t.handler
  dial _ _ _ := rfl
  dialOn {t now d w d' w'} on polled := by
    have next : On t (pollDial now d w).1 := on_pollDial on
    rwa [show pollDial now d w = _ from polled] at next
  dialed {t now d w client w'} on polled := by
    have next : On t (pollDial now d w).1 := on_pollDial on
    rwa [show pollDial now d w = _ from polled] at next
  operate op {t client w result client' w'} on ran := by
    cases op <;> (cases ran; exact on)
  sync {t now client w result messages client' w'} on synced := by
    cases synced
    exact on

theorem size_pollShaking (h : Handshake) (number : Option Nat) (s : Speaker) :
    (pollShaking now h number s ls).2.links.size = ls.links.size := by
  unfold pollShaking
  split
  · rename_i h' s' ls' worked
    have same := (onLink_keeps worked).2
    split <;> exact same
  · rename_i s' ls' worked
    exact (onLink_keeps worked).2
  · rename_i f s' ls' worked
    simp [close, change, (onLink_keeps worked).2]

theorem takeAnswer_introduces (answer : Answer) :
    (ls.takeAnswer now answer t.settings t.plan t.handler).2.links.size = ls.links.size ∨
    ∃ acts, ls.takeAnswer now answer t.settings t.plan t.handler = ls.introduce now t acts := by
  cases answer with
  | refused | unresolved => exact .inl rfl
  | link acts => exact .inr ⟨acts, takeAnswer_link acts⟩

/-- An attempt makes a new link only for a client that introduces itself on its terms. -/
theorem pollDial_introduces {d : Dial} (on : d.On t) :
    (pollDial now d ls).2.links.size = ls.links.size ∨
    ∃ acts script, pollDial now d ls = { ls with script }.introduce now t acts := by
  cases d with
  | failed | stranded => exact .inl rfl
  | shaking h number s => exact .inl (size_pollShaking h number s)
  | ringing time answer settings plan handler =>
    obtain rfl := on
    unfold pollDial
    dsimp only
    split
    · exact .inl rfl
    · rcases takeAnswer_introduces (t := ⟨settings, plan, handler⟩) answer with same | ⟨acts, introduces⟩
      · exact .inl same
      · exact .inr ⟨acts, ls.script, introduces⟩
  | unanswered settings plan handler =>
    obtain rfl := on
    unfold pollDial
    dsimp only
    split
    · exact .inl rfl
    · rename_i line rest script
      rcases @takeAnswer_introduces ⟨settings, plan, handler⟩ now { ls with script := rest } line.answer
        with same | ⟨acts, introduces⟩
      · exact .inl same
      · exact .inr ⟨acts, rest, introduces⟩

/-! ## Where a dial goes -/

theorem dialed_onLink {α : Type} {work : MqttLink.Client → Link → α × MqttLink.Client × Link}
    {s s' : Speaker} {result : α} {ls' : Lines} (worked : onLink work s ls = (result, s', ls')) :
    ls'.dialed = ls.dialed := by
  cases worked
  rfl

theorem dialed_pollShaking (h : Handshake) (number : Option Nat) (s : Speaker) :
    (pollShaking now h number s ls).2.dialed = ls.dialed := by
  unfold pollShaking
  split
  · rename_i h' s' ls' worked
    have same := dialed_onLink worked
    split <;> exact same
  · rename_i s' ls' worked
    exact dialed_onLink worked
  · rename_i f s' ls' worked
    have same := dialed_onLink worked
    exact same

theorem dialed_introduce (acts : List Act) : (ls.introduce now t acts).2.dialed = ls.dialed := by
  unfold introduce
  dsimp only
  split
  · exact dialed_pollShaking _ _ _
  · rfl
  · rfl

theorem dialed_takeAnswer (answer : Answer) :
    (ls.takeAnswer now answer t.settings t.plan t.handler).2.dialed = ls.dialed := by
  cases answer with
  | refused | unresolved => rfl
  | link acts =>
    rw [takeAnswer_link]
    exact dialed_introduce acts

theorem dialed_pollDial (now : Nat) (d : Dial) (ls : Lines) :
    (pollDial now d ls).2.dialed = ls.dialed := by
  unfold pollDial
  split
  · rfl
  · rfl
  · exact dialed_pollShaking _ _ _
  · split
    · rfl
    · exact dialed_takeAnswer (t := ⟨_, _, _⟩) _
  · split
    · rfl
    · exact dialed_takeAnswer (t := ⟨_, _, _⟩) _

/-- Nobody but a dial wants to reach anyone. -/
theorem spares_dialed : Spares backend Lines.dialed where
  appoint _ _ := rfl
  pollDial := dialed_pollDial
  hangUp d ls := by cases d <;> rfl
  sync _ _ _ := rfl
  leave now s ls := by
    change (Lines.leave now s ls).2.dialed = ls.dialed
    unfold Lines.leave
    split <;> rfl
  pollLeave now f ls := by
    change (Lines.pollLeave now f ls).2.dialed = ls.dialed
    unfold Lines.pollLeave
    split
    · rfl
    · split
      all_goals
        rename_i worked
        exact dialed_onLink worked
  drop _ _ := rfl

variable {x y z : Session (Logged Lines) Speaker Dial Leave} {new more : List (DialRecord Lines)}

/-- So many dials were put on record meanwhile, and just for these somebody was called. -/
structure Calls (x y : Session (Logged Lines) Speaker Dial Leave) (new : List (DialRecord Lines)) :
    Prop where
  dials : y.outside.dials = x.outside.dials ++ new
  dialed : y.outside.outside.dialed.toList =
    x.outside.outside.dialed.toList ++ new.map fun record => record.terms.dialed

theorem Calls.refl (x : Session (Logged Lines) Speaker Dial Leave) : Calls x x [] where
  dials := (List.append_nil _).symm
  dialed := (List.append_nil _).symm

theorem Calls.trans (first : Calls x y new) (rest : Calls y z more) : Calls x z (new ++ more) where
  dials := by rw [rest.dials, first.dials, List.append_assoc]
  dialed := by rw [rest.dialed, first.dialed, List.map_append, List.append_assoc]

/-- What happens outside by itself calls nobody. -/
def KeepsDialed (x : Session (Logged Lines) Speaker Dial Leave) : Session.Move (Logged Lines) → Prop
  | .outside w => w.outside.dialed = x.outside.outside.dialed
  | .loop _ | .call _ | .connect .. | .disconnect _ | .operate _ | .collect | .rest => True

theorem calls_move {m : Session.Move (Logged Lines)} (kept : m.KeepsRecord x) (alone : KeepsDialed x m) :
    ∃ new, Calls x (m.run backend.logged x) new := by
  have operations : ∀ (op : Operation) (s : Speaker) (w : Logged Lines),
      ((op.run backend.logged s w).2.2.dials, (op.run backend.logged s w).2.2.outside.dialed) =
        (w.dials, w.outside.dialed) := by
    intro op s w
    cases op <;> rfl
  have moved := Session.view_move spares_dialed.logged operations (x := x) (m := m) ?_
  · rcases moved with same | ⟨record, begins, one⟩
    · obtain ⟨dials, dialed⟩ := Prod.mk.inj same
      refine ⟨[], ?_, ?_⟩
      · rw [dials, List.append_nil]
      · rw [dialed, List.map_nil, List.append_nil]
    · obtain ⟨dials, dialed⟩ := Prod.mk.inj one
      have before : record.outside.dialed = x.outside.outside.dialed := begins.spared spares_dialed
      refine ⟨[record], dials, ?_⟩
      rw [dialed, ← before]
      exact Array.toList_push
  · rintro w rfl
    exact congrArg₂ Prod.mk kept alone

/-- After any moves that ask for no end of the session, while nobody else calls anyone. -/
inductive Alone (x : Session (Logged Lines) Speaker Dial Leave) :
    Session (Logged Lines) Speaker Dial Leave → Prop
  | start : Alone x x
  | move {y : Session (Logged Lines) Speaker Dial Leave} {m : Session.Move (Logged Lines)}
      (run : Alone x y) (allowed : m.Allowed y) (kept : m.KeepsRecord y) (stays : m.restarts = false)
      (alone : KeepsDialed y m) : Alone x (m.run backend.logged y)

theorem Alone.meanwhile (run : Alone x y) : Session.Meanwhile backend x y := by
  induction run with
  | start => exact .start
  | move _ allowed kept stays _ ih => exact ih.move allowed kept stays

theorem Alone.calls (run : Alone x y) : ∃ new, Calls x y new := by
  induction run with
  | start => exact ⟨[], .refl x⟩
  | move _ _ kept _ alone ih =>
    obtain ⟨new, calls⟩ := ih
    obtain ⟨more, calls'⟩ := calls_move kept alone
    exact ⟨new ++ more, calls.trans calls'⟩

/-! ## The whole of it -/

/-- From a connect to the next, or to a disconnect, every attempt is made with what the connect was asked
for: the attempts on record and whom they call, the introduction of every client, and whoever gets its
messages. Nobody else is called. -/
theorem attempts_on_terms {request : ConnectRequest} {handler : Option Handler}
    (r : Session.Reachable backend.logged x) (free : x.call.isOver = true)
    (valid : request.validate = .ok ())
    (run : Session.Meanwhile backend (x.connect backend.logged now request handler) y) :
    let plan : ConnectPlan :=
      { host := request.host
        port := request.port.getD "1883"
        options :=
          { clientId := request.clientId
            username := request.username
            password := request.password
            keepAliveSecs := if request.keepAliveSecs = 0 then 400 else request.keepAliveSecs
            cleanSession := request.cleanSession } }
    let t : Terms := { settings := x.settings, plan, handler }
    let called : Dialed := { host := plan.host, port := plan.port, timeout := x.settings.connectTimeout }
    (∃ new, y.outside.dials = x.outside.dials ++ new ∧
      (∀ record ∈ new, record.terms = t ∧
        (backend.dial record.now record.settings record.plan record.handler record.outside).2.dialed =
          record.outside.dialed.push called) ∧
      (Alone (x.connect backend.logged now request handler) y →
        y.outside.outside.dialed.toList =
          x.outside.outside.dialed.toList ++ List.replicate new.length called)) ∧
    (∀ m d, Session.Polls y m d → ∀ now ls,
      (pollDial now d ls).2.links.size = ls.links.size ∨
      ∃ acts script, pollDial now d ls = { ls with script }.introduce now t acts) ∧
    ∀ s, y.call.isOver = true → y.state.client = some s → s.handler = handler := by
  obtain ⟨ry, follows, new, dials, faithful⟩ := binding.follows_meanwhile r free valid run
  refine ⟨⟨new, dials, fun record mem => ⟨faithful record mem, ?_⟩, fun alone => ?_⟩,
    fun m d polls now ls => ?_, fun s past held => ?_⟩
  · exact congrArg (fun t : Terms => record.outside.dialed.push t.dialed) (faithful record mem)
  · obtain ⟨first, calls⟩ := calls_move (x := x) (m := .connect now request handler) trivial trivial
    obtain ⟨rest, calls'⟩ := alone.calls
    have all := calls.trans calls'
    obtain rfl : first ++ rest = new := List.append_cancel_left (all.dials.symm.trans dials)
    rw [all.dialed]
    refine congrArg _ (List.eq_replicate_iff.2 ⟨List.length_map _, ?_⟩)
    intro d mem
    obtain ⟨record, put, rfl⟩ := List.mem_map.1 mem
    exact congrArg Terms.dialed (faithful record put)
  · have on : d.On _ := follows.polls ry.inv polls
    exact pollDial_introduces on
  · cases follows with
    | tearingDown settings goal => simp [Call.not_isOver_of_goal goal] at past
    | dialing settings call => simp [call, Call.isOver] at past
    | settled call served => exact served.client s held

/-- A connect, a loss, a subscription that fails meanwhile, and a reconnect. -/
theorem attempts_on_terms_reconnected :
    ∃ (x y : Session (Logged Lines) Speaker Dial Leave) (t : Terms),
      Session.Reachable backend.logged x ∧
      Session.Meanwhile backend (x.connect backend.logged 0 { host := "h" } (some 7)) y ∧
      t.plan.port = "1883" ∧ t.plan.options.keepAliveSecs = 400 ∧ t.handler = some 7 ∧
      y.state.status = .connected ∧ y.outside.outside.links.size = 2 ∧
      y.outside.dials.length = 2 ∧ (∀ record ∈ y.outside.dials, record.terms = t) ∧
      y.outside.outside.dialed.toList = List.replicate y.outside.dials.length ⟨"h", "1883", 10000⟩ ∧
      ∀ s, y.state.client = some s → s.handler = some 7 := by
  let script : List Line :=
    [{ answer := .link [.now (.feed [0x20, 2, 0, 0]), .now .finish] },
      { answer := .link [.now (.feed [0x20, 2, 0, 0])] }]
  have r := Session.Reachable.new (b := backend.logged) {} { outside := { script } }
  have begins : ∀ {x : Session (Logged Lines) Speaker Dial Leave}, Session.Reachable backend.logged x →
      Alone (x.connect backend.logged 0 { host := "h" } (some 7))
        (x.connect backend.logged 0 { host := "h" } (some 7)) := fun _ => .start
  have u := begins r
  have u := u.move (m := .call 0) trivial trivial rfl trivial
  have u := u.move (m := .loop 0) trivial trivial rfl trivial
  have u := u.move (m := .operate (.subscribe "a" .atMostOnce)) (by cbv) trivial rfl trivial
  have u := u.move (m := .loop 1000) trivial trivial rfl trivial
  have u := u.move (m := .loop 1000) trivial trivial rfl trivial
  have u := u.move (m := .loop 1000) trivial trivial rfl trivial
  obtain ⟨⟨new, dials, faithful, called⟩, -, client⟩ := attempts_on_terms r rfl rfl u.meanwhile
  rw [show new = _ from dials.symm] at faithful called
  exact ⟨_, _, _, r, u.meanwhile, rfl, rfl, rfl, by cbv, by cbv, by cbv,
    fun record mem => (faithful record mem).1, called u, fun s => client s (by cbv)⟩

end Lines

end MqttLink
