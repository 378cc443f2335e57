import MqttLink.Proofs.Steps

/-!
# What a session begins

Most steps of a session go on with what is there already: a client, a dial under way, a farewell. A dial
begins in the loop after a backoff and in a connect, and besides the caller only a reconnect subscribes.
-/

namespace MqttLink

variable {ω κ δ φ α : Type}

/-- What `view` shows of the outside is changed by dials that begin and by operations only. -/
structure Spares (b : Backend ω κ δ φ) (view : ω → α) : Prop where
  appoint : ∀ time w, view (b.appoint time w).2 = view w
  pollDial : ∀ now d w, view (b.pollDial now d w).2 = view w
  hangUp : ∀ d w, view (b.hangUp d w) = view w
  sync : ∀ now client w, view (b.sync now client w).2.2.2 = view w
  leave : ∀ now client w, view (b.leave now client w).2 = view w
  pollLeave : ∀ now f w, view (b.pollLeave now f w).2 = view w
  drop : ∀ client w, view (b.drop client w) = view w

namespace Spares

variable {b : Backend ω κ δ φ} {view : ω → α} (spares : Spares b view) {x y : Session ω κ δ φ} {now : Nat}

include spares

theorem dialed {d : δ} {w w' : ω} {r : Progress δ (Except SessionError κ)}
    (polled : b.pollDial now d w = (r, w')) : view w' = view w := by
  have same := spares.pollDial now d w
  rwa [polled] at same

theorem left {f : φ} {w w' : ω} {r : Progress φ κ} (polled : b.pollLeave now f w = (r, w')) :
    view w' = view w := by
  have same := spares.pollLeave now f w
  rwa [polled] at same

/-! ## The record -/

theorem dropConnection (s : State κ) (w : ω) : view (s.dropConnection b w).2 = view w := by
  unfold State.dropConnection
  split
  · rfl
  · exact spares.drop _ w

theorem markLost (e : SessionError) (s : State κ) (w : ω) : view (s.markLost b e w).2 = view w :=
  spares.dropConnection _ w

theorem abandon (e : SessionError) (s : State κ) (w : ω) : view (s.abandon b e w).2 = view w :=
  spares.dropConnection _ w

theorem reset (s : State κ) (w : ω) : view (s.reset b w).2 = view w := spares.dropConnection _ w

/-! ## The loop -/

theorem wait (time : Nat) (p : Appointment → Phase κ δ) :
    view (x.wait b now time p).outside = view x.outside := by
  unfold Session.wait Session.goOn
  dsimp only
  split <;> exact spares.appoint _ _

theorem pump : view (x.pump b now).2.outside = view x.outside := by
  unfold Session.pump
  split
  · rfl
  · rename_i client held
    have synced := spares.sync now client x.outside
    dsimp only
    split <;> exact synced

theorem deciding (d : Session.Deciding b now x y) : view y.outside = view x.outside := by
  cases d with
  | down => rfl
  | lost up failed =>
    have pumped : view (x.pump b now).2.outside = view x.outside := spares.pump
    rw [failed] at pumped
    exact (spares.markLost _ _ _).trans pumped

theorem endLoop (p : Phase κ δ) : view (x.endLoop b p).outside = view x.outside := by
  unfold Session.endLoop
  split
  · exact spares.hangUp _ _
  · exact spares.drop _ _
  · rfl

theorem loopStep {r : Bool × Session ω κ δ φ} (s : Session.LoopStep b now x r) :
    view r.2.outside = view x.outside ∨
    (∃ time plan handler awake, x.loop = some ⟨.backingOff time plan handler, awake, false⟩ ∧
      x.call.holdsState = false ∧ r.2 = x.redial b now plan handler) ∨
    ∃ client awake, x.loop = some ⟨.redialed (.ok client), awake, false⟩ ∧
      r.2 = x.recordRedial b now (.ok client) := by
  cases s with
  | stay | block | rested => exact .inl rfl
  | stop running stopping alive => exact .inl (spares.endLoop _)
  | exchange loop free up went =>
    have pumped : view (x.pump b now).2.outside = view x.outside := spares.pump
    rw [went] at pumped
    exact .inl ((spares.wait _ _).trans pumped)
  | schedule loop free deciding =>
    have decided := spares.deciding deciding
    exact .inl ((spares.wait _ _).trans decided)
  | unplanned loop free deciding | giveUp loop free deciding =>
    have decided := spares.deciding deciding
    exact .inl decided
  | redial loop due free => exact .inr (.inl ⟨_, _, _, _, loop, free, rfl⟩)
  | dialOn loop polled | dialed loop polled =>
    have same := spares.dialed polled
    exact .inl same
  | @record awake result loop free =>
    cases result with
    | ok client => exact .inr (.inr ⟨_, _, loop, rfl⟩)
    | error e => exact .inl (spares.wait _ _)

/-! ## The caller -/

theorem sayGoodbye (goal : Goal) : view (x.sayGoodbye b now goal).outside = view x.outside := by
  unfold Session.sayGoodbye
  split
  · exact spares.leave now _ x.outside
  · rfl

theorem recordDial (result : Except SessionError κ) :
    view (x.recordDial b result).outside = view x.outside := by
  cases result with
  | ok client => rfl
  | error e => exact spares.abandon e _ _

theorem callStep {r : Bool × Session ω κ δ φ} (s : Session.CallStep b now x r) :
    view r.2.outside = view x.outside ∨
    ∃ plan handler, x.call = .joining (.connect plan handler) ∧
      (∀ l, x.loop = some l → l.phase = .ended) ∧
      r.2 = ({ x with loop := none }.act (State.reset b)).dialFor b now plan handler := by
  cases s with
  | stay | join => exact .inl rfl
  | leave => exact .inl (spares.sayGoodbye _)
  | leaveOn call polled | left call polled =>
    have same := spares.left polled
    exact .inl same
  | @clear goal call past =>
    cases goal with
    | disconnect => exact .inl (spares.reset _ _)
    | connect plan handler => exact .inr ⟨plan, handler, call, past, rfl⟩
  | dialOn call polled =>
    have same := spares.dialed polled
    exact .inl same
  | dialed call polled => exact .inl ((spares.recordDial _).trans (spares.dialed polled))

omit spares in
theorem tearDown (view : ω → α) (now : Nat) (goal : Goal) :
    view (x.tearDown b now goal).outside = view x.outside ∨
    ∃ plan handler, goal = .connect plan handler ∧ x.loop = none ∧
      x.snapshot.status = .uninitialized ∧ x.tearDown b now goal = x.dialFor b now plan handler := by
  unfold Session.tearDown
  split
  · rename_i nothing
    cases goal with
    | disconnect => exact .inl rfl
    | connect plan handler =>
      refine .inr ⟨plan, handler, rfl, by simpa using nothing.2, ?_, rfl⟩
      simpa [Status.isInitialized] using nothing.1
  · exact .inl rfl

/-! ## Operations -/

variable (operations : ∀ (op : Operation) client w, view (op.run b client w).2.2 = view w)

omit spares in
include operations in
theorem restoreAll (subscriptions : List (String × QoS)) (client : κ) (w : ω) :
    view (State.restoreAll b subscriptions client w).2 = view w := by
  induction subscriptions generalizing client w with
  | nil => rfl
  | cons first rest ih =>
    obtain ⟨topic, qos⟩ := first
    have subscribed := operations (.subscribe topic qos) client w
    unfold State.restoreAll
    split
    · rename_i client' w' ran
      rw [Operation.run, ran] at subscribed
      exact (ih client' w').trans subscribed
    · rename_i ran
      rw [Operation.run, ran] at subscribed
      exact subscribed

include operations in
theorem operateStep {op : Operation} {r : Except SessionError Unit × Session ω κ δ φ}
    (s : Session.OperateStep b op x r) : view r.2.outside = view x.outside := by
  have worked : ∀ {client result client' w}, op.run b client x.outside = (result, client', w) →
      view w = view x.outside := by
    intro client result client' w ran
    have same := operations op client x.outside
    rwa [ran] at same
  cases s with
  | refuse => rfl
  | succeed up held ran => exact worked ran
  | @«break» client client' w f up held ran broken =>
    have lost := spares.markLost (.protocol f op.failure) (x.called client' w).state w
    exact lost.trans (worked ran)
  | fail up held ran sound => exact worked ran

end Spares

end MqttLink
