import MqttLink.Proofs.Steps
import MqttLink.Rehearsal.Ledger

/-!
# The record is coherent

Whenever nobody holds the record of a session, its parts agree with one another and with the loop,
whatever the brokers, the clients and the caller have done, and in whatever order.
-/

namespace MqttLink

/-- Nothing of an earlier connection is left. -/
structure State.Clear {κ : Type} (s : State κ) : Prop where
  client : s.client = none
  plan : s.plan = none
  handler : s.handler = none
  subscriptions : s.subscriptions = []
  retries : s.retries = 0
  lastError : s.lastError = none
  lastFault : s.lastFault = none

def Call.isLeaving {δ φ : Type} : Call δ φ → Bool
  | leaving .. => true
  | idle | stopping _ | joining _ | dialing _ | finished _ => false

theorem Call.not_leaving {δ φ : Type} {c : Call δ φ} (free : c.holdsState = false) :
    c.isLeaving = false := by
  cases c <;> simp_all [holdsState, isLeaving]

theorem Call.not_leaving_of_over {δ φ : Type} {c : Call δ φ} (past : c.isOver = true) :
    c.isLeaving = false := by
  cases c <;> simp_all [isOver, isLeaving]

theorem Call.not_holdsState_of_over {δ φ : Type} {c : Call δ φ} (past : c.isOver = true) :
    c.holdsState = false := by
  cases c <;> simp_all [isOver, holdsState]

/-- Whether the loop stands somewhere on its way from a loss to the next connection. -/
def Phase.isAway {κ δ : Type} : Phase κ δ → Bool
  | backingOff .. | redialing _ | redialed _ => true
  | cycling | resting _ | ended => false

namespace Session

variable {ω κ δ φ : Type} {b : Backend ω κ δ φ} {x y : Session ω κ δ φ}

/-! ## The invariant -/

/-- What every move keeps, also while the caller holds the record. -/
structure Inv (x : Session ω κ δ φ) : Prop where
  told : x.state.published.status = x.state.status
  client_iff : x.call.isLeaving = false → (x.state.client.isSome ↔ x.state.status = .connected)
  leaving : x.call.isLeaving = true → x.state.client = none ∧ x.state.status = .connected
  up : x.state.status = .connected → x.state.retries = 0 ∧ x.loop.isSome
  retries_le : x.state.retries ≤ x.settings.maxRetries.toNat
  clear : x.state.status = .uninitialized → x.state.Clear
  looping : ∀ l, x.loop = some l → x.state.status ≠ .uninitialized ∧ x.state.plan.isSome
  ended : ∀ l, x.loop = some l → l.phase = .ended →
    l.stopping = true ∨ x.state.status = .reconnectFailed
  away : ∀ l, x.loop = some l → l.phase.isAway = true → x.state.status ≠ .connected
  dialing : ∀ d, x.call = .dialing d →
    x.loop = none ∧ x.state.status = .connecting ∧ x.state.plan.isSome
  asked : ∀ l, x.loop = some l → l.stopping = !x.call.isOver

theorem Inv.new (settings : Settings) (w : ω) :
    Inv ({ settings, outside := w } : Session ω κ δ φ) := by
  constructor <;> simp [Call.isLeaving]
  constructor <;> rfl

theorem Inv.client_none (h : Inv x) (quiet : x.call.isLeaving = false)
    (down : x.state.status ≠ .connected) : x.state.client = none := by
  cases held : x.state.client with
  | none => rfl
  | some client => exact absurd ((h.client_iff quiet).1 (by simp [held])) down

/-- The loop of a connected session ends only if it has to. -/
theorem Inv.stopped (h : Inv x) (up : x.state.status = .connected) {l : Loop κ δ}
    (loop : x.loop = some l) (past : l.phase = .ended) : l.stopping = true :=
  (h.ended l loop past).resolve_right (by simp [up])

theorem Inv.home (h : Inv x) (up : x.state.status = .connected) {l : Loop κ δ}
    (loop : x.loop = some l) : l.phase.isAway ≠ true := fun away => h.away l loop away up

/-! ## The loop keeps it -/

/-- Only the loop changes. -/
theorem Inv.setLoop (h : Inv x) (state : y.state = x.state) (settings : y.settings = x.settings)
    (call : y.call = x.call) {g : Loop κ δ → Loop κ δ} (loop : y.loop = x.loop.map g)
    (stopping : ∀ l, (g l).stopping = l.stopping)
    (ended : ∀ l, x.loop = some l → (g l).phase = .ended →
      l.stopping = true ∨ x.state.status = .reconnectFailed)
    (away : ∀ l, x.loop = some l → (g l).phase.isAway = true → x.state.status ≠ .connected) :
    Inv y := by
  have found : ∀ l', y.loop = some l' → ∃ l, x.loop = some l ∧ g l = l' := by
    intro l' hl
    rwa [loop, Option.map_eq_some_iff] at hl
  constructor
  case told => rw [state]; exact h.told
  case client_iff => rw [state, call]; exact h.client_iff
  case leaving => rw [state, call]; exact h.leaving
  case up => rw [state, loop, Option.isSome_map]; exact h.up
  case retries_le => rw [state, settings]; exact h.retries_le
  case clear => rw [state]; exact h.clear
  case looping =>
    intro l' hl'
    obtain ⟨l, hl, -⟩ := found l' hl'
    rw [state]
    exact h.looping l hl
  case ended =>
    intro l' hl'
    obtain ⟨l, hl, rfl⟩ := found l' hl'
    rw [state, stopping]
    exact ended l hl
  case away =>
    intro l' hl'
    obtain ⟨l, hl, rfl⟩ := found l' hl'
    rw [state]
    exact away l hl
  case dialing =>
    intro d hd
    rw [call] at hd
    obtain ⟨h1, h2, h3⟩ := h.dialing d hd
    rw [state, loop, h1]
    exact ⟨rfl, h2, h3⟩
  case asked =>
    intro l' hl'
    obtain ⟨l, hl, rfl⟩ := found l' hl'
    rw [call, stopping]
    exact h.asked l hl

/-- The loop goes somewhere else. -/
theorem Inv.goTo (h : Inv x) {p : Phase κ δ} {awake : Bool} (state : y.state = x.state)
    (settings : y.settings = x.settings) (call : y.call = x.call)
    (loop : y.loop = x.loop.map fun l => { l with phase := p, awake })
    (ended : p = .ended → x.state.status = .reconnectFailed)
    (away : p.isAway = true → x.state.status ≠ .connected) : Inv y :=
  h.setLoop state settings call loop (fun _ => rfl) (fun _ _ e => .inr (ended e)) fun _ _ => away

/-- The record changes while a loop is running, and nobody says goodbye. -/
theorem Inv.setState (h : Inv x) (settings : y.settings = x.settings) (call : y.call = x.call)
    (loop : y.loop = x.loop) (running : x.loop.isSome) (quiet : x.call.isLeaving = false)
    (told : y.state.published.status = y.state.status)
    (client_iff : y.state.client.isSome ↔ y.state.status = .connected)
    (up : y.state.status = .connected → y.state.retries = 0)
    (retries_le : y.state.retries ≤ x.settings.maxRetries.toNat)
    (begun : y.state.status ≠ .uninitialized) (plan : y.state.plan = x.state.plan)
    (ended : ∀ l, x.loop = some l → l.phase = .ended →
      l.stopping = true ∨ y.state.status = .reconnectFailed)
    (away : ∀ l, x.loop = some l → l.phase.isAway = true → y.state.status ≠ .connected) :
    Inv y where
  told := told
  client_iff _ := client_iff
  leaving := by rw [call, quiet]; simp
  up e := ⟨up e, by rwa [loop]⟩
  retries_le := by rwa [settings]
  clear e := absurd e begun
  looping := by
    rw [loop, plan]
    exact fun l hl => ⟨begun, (h.looping l hl).2⟩
  ended := by rwa [loop]
  away := by rwa [loop]
  dialing := by
    rw [call]
    intro d hd
    simp [(h.dialing d hd).1] at running
  asked := by rw [loop, call]; exact h.asked

/-- What a cycle that has to decide starts from. -/
theorem Inv.deciding {now : Nat} {awake : Bool} (h : Inv x) (free : x.call.holdsState = false)
    (loop : x.loop = some ⟨.cycling, awake, false⟩) (d : Deciding b now x y) :
    Inv y ∧ y.loop = x.loop ∧ y.call = x.call ∧ y.settings = x.settings ∧
      y.state.plan = x.state.plan ∧ y.state.retries = x.state.retries ∧
      y.state.status ≠ .connected := by
  have quiet := Call.not_leaving free
  cases d with
  | down down => exact ⟨h, rfl, rfl, rfl, rfl, rfl, down⟩
  | lost up failed =>
    obtain ⟨client, client', w, messages, f, result, -, -, -, -, rfl⟩ :=
      pump_error failed ((h.client_iff quiet).2 up)
    refine ⟨h.setState rfl rfl rfl ?_ quiet ?_ ?_ ?_ ?_ ?_ ?_ ?_ ?_, rfl, rfl, rfl, ?_, ?_, ?_⟩ <;>
      simp [State.markLost_fst, exchanged, called, loop, Phase.isAway]
    exact h.retries_le

theorem Inv.loopStep {now : Nat} {r : Bool × Session ω κ δ φ} (h : Inv x)
    (s : LoopStep b now x r) : Inv r.2 := by
  cases s with
  | stay => exact h
  | block => exact h.setLoop rfl rfl rfl rfl (fun _ => rfl) h.ended h.away
  | stop running stopping alive =>
    refine h.setLoop (by simp) (by simp) (by simp) (endLoop_loop b x _) (fun _ => rfl) ?_ ?_
    · intro l hl _
      rw [running] at hl
      cases hl
      exact .inl stopping
    · simp [Phase.isAway]
  | exchange loop free up went =>
    obtain ⟨client, client', w, messages, -, -, -, rfl⟩ := pump_ok went
    obtain ⟨hr, hl⟩ := h.up up
    have quiet := Call.not_leaving free
    have hy : Inv ((x.exchanged client' w messages).update (State.notify b)) := by
      refine h.setState rfl rfl rfl hl quiet ?_ ?_ ?_ ?_ ?_ ?_ ?_ ?_ <;>
        simp [exchanged, called, up, hr, loop, Phase.isAway]
    obtain ⟨awake', hw⟩ := wait_loop b now
      ((x.exchanged client' w messages).update (State.notify b)).settings.syncInterval .resting
      ((x.exchanged client' w messages).update (State.notify b))
    exact hy.goTo (wait_state ..) (wait_settings ..) (wait_call ..) hw (by simp) (by simp [Phase.isAway])
  | @schedule awake y attempt delay plan loop free deciding decided planned =>
    obtain ⟨hy, hl, hc, hs, -, -, down⟩ := h.deciding free loop deciding
    rw [loop] at hl
    obtain ⟨-, hlt, rfl, -⟩ := decide_eq_proceed.1 decided
    have quiet := Call.not_leaving (hc ▸ free)
    have hz : Inv (y.update fun s => { s with retries := s.retries + 1 }.notify b) := by
      refine hy.setState rfl rfl rfl (by simp [hl]) quiet ?_ ?_ ?_ ?_ ?_ ?_ ?_ ?_ <;>
        simp [hl, down, Phase.isAway]
      · exact hy.client_none quiet down
      · exact hlt
      · exact (hy.looping _ hl).1
    obtain ⟨awake', hw⟩ :=
      wait_loop b now _ _ (y.update fun s => { s with retries := s.retries + 1 }.notify b)
    exact hz.goTo (wait_state ..) (wait_settings ..) (wait_call ..) hw (by simp) fun _ => down
  | unplanned loop free deciding unplanned =>
    obtain ⟨hy, hl, -⟩ := h.deciding free loop deciding
    simpa [unplanned] using (hy.looping _ (hl.trans loop)).2
  | @giveUp awake y loop free deciding decided =>
    obtain ⟨hy, hl, hc, hs, -, -, down⟩ := h.deciding free loop deciding
    rw [loop] at hl
    have quiet := Call.not_leaving (hc ▸ free)
    have hz : Inv (y.update (State.setStatus b .reconnectFailed)) := by
      refine hy.setState rfl rfl rfl (by simp [hl]) quiet ?_ ?_ ?_ ?_ ?_ ?_ ?_ ?_ <;>
        simp [hl, Phase.isAway, State.setStatus]
      · exact hy.client_none quiet down
      · exact hy.retries_le
    exact hz.goTo rfl rfl rfl rfl (fun _ => rfl) (by simp [Phase.isAway])
  | rested loop due => exact h.goTo rfl rfl rfl rfl (by simp) (by simp [Phase.isAway])
  | @redial awake time plan handler loop due free =>
    have hz : Inv ((x.act (State.dropConnection b)).update (State.setStatus b .connecting)) := by
      refine h.setState rfl rfl rfl (by simp [loop]) (Call.not_leaving free) ?_ ?_ ?_ ?_ ?_ ?_ ?_ ?_ <;>
        simp [loop, State.setStatus, State.dropConnection_fst]
      exact h.retries_le
    exact hz.goTo rfl rfl rfl rfl (by simp) (by simp [State.setStatus])
  | dialOn loop polled =>
    refine h.setLoop rfl rfl rfl (Option.map_map ..) (fun _ => rfl) (by simp) ?_
    intro l hl _
    exact h.away _ loop rfl
  | dialed loop polled =>
    refine h.goTo rfl rfl rfl rfl (by simp) ?_
    intro _
    exact h.away _ loop rfl
  | @record awake result loop free =>
    have quiet := Call.not_leaving free
    cases result with
    | ok client =>
      -- The loop leaves its phase first: a session that is connected is not away.
      have h1 : Inv (x.setPhase .cycling) := h.goTo rfl rfl rfl rfl (by simp) (by simp [Phase.isAway])
      have hr := State.restoreSubscriptions_fst b (s := x.state.install b client) rfl x.outside
      simp only [State.install, State.setStatus] at hr
      refine h1.setState (y := ((x.update (State.install b client)).act
        (State.restoreSubscriptions b)).setPhase .cycling)
        rfl rfl rfl (by simp [loop]) quiet ?_ ?_ ?_ ?_ ?_ ?_ ?_ ?_ <;>
        simp [hr, loop, State.install, State.setStatus, Phase.isAway]
    | error e =>
      have hz : Inv (x.update fun s => (s.recordError b e).setStatus b .disconnected) := by
        refine h.setState rfl rfl rfl (by simp [loop]) quiet ?_ ?_ ?_ ?_ ?_ ?_ ?_ ?_ <;>
          simp [loop, State.recordError, State.setStatus]
        · exact h.client_none quiet (h.away _ loop rfl)
        · exact h.retries_le
      obtain ⟨awake', hw⟩ :=
        wait_loop b now _ _ (x.update fun s => (s.recordError b e).setStatus b .disconnected)
      exact hz.goTo (wait_state ..) (wait_settings ..) (wait_call ..) hw (by simp) (by simp [Phase.isAway])

/-! ## The caller keeps it -/

/-- The caller's operation goes on, and may tell the loop to stop. -/
theorem Inv.setCall (h : Inv x) {call : Call δ φ} {w : ω} {g : Loop κ δ → Loop κ δ}
    (phase : ∀ l, (g l).phase = l.phase) (held : call.isLeaving = x.call.isLeaving)
    (asked : ∀ l, x.loop = some l → (g l).stopping = !call.isOver)
    (kept : ∀ l, x.loop = some l → l.stopping = true → (g l).stopping = true)
    (dialing : ∀ d, call = .dialing d →
      x.loop = none ∧ x.state.status = .connecting ∧ x.state.plan.isSome) :
    Inv { x with outside := w, call, loop := x.loop.map g } where
  told := h.told
  client_iff quiet := h.client_iff (held ▸ quiet)
  leaving left := h.leaving (held ▸ left)
  up e := by simpa using h.up e
  retries_le := h.retries_le
  clear := h.clear
  looping := by
    simp only [Option.map_eq_some_iff]
    rintro _ ⟨l, hl, rfl⟩
    exact h.looping l hl
  ended := by
    simp only [Option.map_eq_some_iff]
    rintro _ ⟨l, hl, rfl⟩ e
    exact (h.ended l hl (phase l ▸ e)).imp_left (kept l hl)
  away := by
    simp only [Option.map_eq_some_iff]
    rintro _ ⟨l, hl, rfl⟩ e
    exact h.away l hl (phase l ▸ e)
  dialing d e := by simpa using dialing d e
  asked := by
    simp only [Option.map_eq_some_iff]
    rintro _ ⟨l, hl, rfl⟩
    exact asked l hl

/-- The loop is not told anything. -/
theorem Inv.goOn (h : Inv x) {call : Call δ φ} (w : ω) (held : call.isLeaving = x.call.isLeaving)
    (past : call.isOver = x.call.isOver)
    (dialing : ∀ d, call = .dialing d → ∃ d', x.call = .dialing d') :
    Inv { x with outside := w, call } := by
  have kept : Inv { x with outside := w, call, loop := x.loop.map id } :=
    h.setCall (fun _ => rfl) held (by rw [past]; exact h.asked) (fun _ _ e => e)
      fun d e => h.dialing _ (dialing d e).choose_spec
  simpa using kept

/-- The client goes from the record to the farewell, or back. -/
theorem Inv.handOver (h : Inv x) (up : x.state.status = .connected) {client : Option κ}
    {call : Call δ φ} (w : ω) (held : client.isSome = !call.isLeaving)
    (past : call.isOver = x.call.isOver) (dialing : ∀ d, call ≠ .dialing d) :
    Inv { x with outside := w, state := { x.state with client }, call } where
  told := h.told
  client_iff quiet := by simp [held, quiet, up]
  leaving left := ⟨by simpa [left] using held, up⟩
  up := h.up
  retries_le := h.retries_le
  clear e := by simp [up] at e
  looping := h.looping
  ended := h.ended
  away := h.away
  dialing d e := absurd e (dialing d)
  asked l hl := by rw [past]; exact h.asked l hl

/-- Nothing is left of the previous session. -/
theorem Inv.pursue (now : Nat) (goal : Goal) (loop : x.loop = none) (clear : x.state.Clear)
    (status : x.state.status = .uninitialized) (told : x.state.published.status = .uninitialized) :
    Inv (x.pursue b now goal) := by
  unfold Session.pursue
  cases goal with
  | disconnect =>
    constructor <;> simp [status, told, clear.client, clear.retries, clear, loop, Call.isLeaving]
  | connect plan handler =>
    unfold dialFor
    constructor <;> simp [clear.client, loop, Call.isLeaving, State.begin, State.setStatus]

theorem Inv.tearDown (h : Inv x) (now : Nat) (goal : Goal) (past : x.call.isOver = true) :
    Inv (x.tearDown b now goal) := by
  have quiet := Call.not_leaving_of_over past
  unfold Session.tearDown
  split
  · rename_i nothing
    have told : x.state.published.status = .uninitialized := by
      have h1 := nothing.1
      rw [Bool.not_eq_true', Status.isInitialized, decide_eq_false_iff_not, Decidable.not_not] at h1
      exact h1
    have status : x.state.status = .uninitialized := h.told ▸ told
    exact Inv.pursue now goal (by simpa using nothing.2) (h.clear status) status told
  · exact h.setCall (fun _ => rfl) quiet.symm (fun _ _ => rfl) (fun _ _ _ => rfl) (by simp)

theorem Inv.callStep {now : Nat} {r : Bool × Session ω κ δ φ} (h : Inv x)
    (s : CallStep b now x r) : Inv r.2 := by
  cases s with
  | stay => exact h
  | leave call up held =>
    unfold sayGoodbye
    rw [up, held]
    exact h.handOver up _ (by simp [Call.isLeaving]) (by simp [call, Call.isOver]) (by simp)
  | join call down =>
    exact h.goOn _ (by simp [call, Call.isLeaving]) (by simp [call, Call.isOver]) (by simp)
  | leaveOn call polled =>
    exact h.goOn _ (by simp [call, Call.isLeaving]) (by simp [call, Call.isOver]) (by simp)
  | left call polled =>
    have up := (h.leaving (by simp [call, Call.isLeaving])).2
    exact h.handOver up _ (by simp [Call.isLeaving]) (by simp [call, Call.isOver]) (by simp)
  | clear call past =>
    have cleared := State.reset_fst b x.state x.outside
    refine Inv.pursue now _ rfl ?_ ?_ ?_ <;> rw [act_state, cleared]
    · constructor <;> rfl
    · rfl
    · rfl
  | dialOn call polled =>
    exact h.goOn _ (by simp [call, Call.isLeaving]) (by simp [call, Call.isOver]) (by simp [call])
  | @dialed dial result w call polled =>
    obtain ⟨loop, -, planned⟩ := h.dialing dial call
    unfold recordDial
    cases result with
    | ok client =>
      constructor <;>
        simp [State.install, State.setStatus, Call.isLeaving, Call.isOver, Phase.isAway, planned]
    | error e =>
      constructor <;> simp [State.abandon_fst, Call.isLeaving, loop]
      exact h.retries_le

theorem Inv.operateStep {op : Operation} {r : Except SessionError Unit × Session ω κ δ φ} (h : Inv x)
    (free : x.call.holdsState = false) (s : OperateStep b op x r) : Inv r.2 := by
  have quiet := Call.not_leaving free
  cases s with
  | refuse => exact h
  | succeed up held ran =>
    obtain ⟨retries, running⟩ := h.up up
    refine h.setState rfl rfl rfl running quiet ?_ ?_ ?_ ?_ ?_ ?_
      (fun l hl e => .inl (h.stopped up hl e)) (fun l hl e => absurd e (h.home up hl)) <;>
      simp [called, up, retries, h.told]
  | «break» up held ran broken =>
    obtain ⟨retries, running⟩ := h.up up
    refine h.setState rfl rfl rfl running quiet ?_ ?_ ?_ ?_ ?_ ?_
      (fun l hl e => .inl (h.stopped up hl e)) (fun l hl e => absurd e (h.home up hl)) <;>
      simp [State.markLost_fst, called, retries]
  | fail up held ran sound =>
    obtain ⟨retries, running⟩ := h.up up
    refine h.setState rfl rfl rfl running quiet ?_ ?_ ?_ ?_ ?_ ?_
      (fun l hl e => .inl (h.stopped up hl e)) (fun l hl e => absurd e (h.home up hl)) <;>
      simp [State.recordError, called, up, retries]

/-- Between two operations of the caller only its own account of them changes. -/
theorem Inv.setResult (h : Inv x) (past : x.call.isOver = true) {call : Call δ φ}
    (past' : call.isOver = true) : Inv { x with call } := by
  refine h.goOn x.outside ?_ (past'.trans past.symm) ?_
  · rw [Call.not_leaving_of_over past, Call.not_leaving_of_over past']
  · rintro d rfl
    simp [Call.isOver] at past'

theorem Inv.move {m : Move ω} (h : Inv x) (allowed : m.Allowed x) : Inv (m.run b x) := by
  cases m with
  | loop now => exact h.loopStep (Session.loopStep b now x)
  | call now => exact h.callStep (Session.callStep b now x)
  | connect now request handler =>
    change Inv (x.connect b now request handler)
    unfold Session.connect
    split
    · exact h.setResult allowed rfl
    · exact h.tearDown now _ allowed
  | disconnect now => exact h.tearDown now _ allowed
  | operate op => exact h.operateStep allowed (Session.operateStep b op x)
  | outside w => exact h.goOn w rfl rfl fun d e => ⟨d, e⟩
  | collect => exact { h with }
  | rest => exact h.setResult allowed rfl

theorem Reachable.inv (r : Reachable b x) : Inv x := by
  induction r with
  | new settings w => exact Inv.new settings w
  | move _ allowed ih => exact ih.move allowed

/-! ## What is found by whoever takes the record -/

/-- The parts of a session whose record nobody holds. -/
structure Coherent (b : Backend ω κ δ φ) (x : Session ω κ δ φ) : Prop where
  client_iff : x.state.client.isSome ↔ x.state.status = .connected
  connected : x.state.status = .connected → x.state.retries = 0 ∧ x.state.plan.isSome
  retries_le : x.state.retries ≤ x.settings.maxRetries.toNat
  clear : x.state.status = .uninitialized → x.state.Clear
  /-- The loop is told to stop by a connect or a disconnect under way, and by nothing else. -/
  asked : ∀ l, x.loop = some l → l.stopping = !x.call.isOver
  gaveUp : ∀ l, x.loop = some l → l.phase = .ended → l.stopping = false →
    x.state.status = .reconnectFailed
  /-- A connected session has a loop, which runs unless it was told to stop. -/
  alive : x.state.status = .connected →
    ∃ l, x.loop = some l ∧ (l.phase = .ended → l.stopping = true)
  /-- An exchange finds a client. -/
  socket : x.state.status = .connected →
    ∀ now, (x.pump b now).1 ≠ .error (.protocol .socketError "No open socket")
  /-- A loop that decides about another attempt knows where to dial. -/
  planned : x.loop.isSome → ∀ now y, Deciding b now x y → y.state.plan.isSome

theorem Inv.plan (h : Inv x) (running : x.loop.isSome) : x.state.plan.isSome := by
  obtain ⟨l, hl⟩ := Option.isSome_iff_exists.1 running
  exact (h.looping l hl).2

theorem Inv.coherent (h : Inv x) (free : x.call.holdsState = false) : Coherent b x := by
  have held := h.client_iff (Call.not_leaving free)
  constructor
  case client_iff => exact held
  case connected => exact fun up => ⟨(h.up up).1, h.plan (h.up up).2⟩
  case retries_le => exact h.retries_le
  case clear => exact h.clear
  case asked => exact h.asked
  case gaveUp =>
    intro l hl past goes
    exact (h.ended l hl past).resolve_left (by simp [goes])
  case alive =>
    intro up
    obtain ⟨l, hl⟩ := Option.isSome_iff_exists.1 (h.up up).2
    exact ⟨l, hl, h.stopped up hl⟩
  case socket =>
    intro up now e
    rcases hp : x.pump b now with ⟨result, y⟩
    rw [hp] at e
    cases e
    obtain ⟨-, -, -, -, f, -, -, -, -, e, -⟩ := pump_error hp (held.2 up)
    injection e with _ context
    exact absurd context (by decide)
  case planned =>
    intro running now y d
    cases d with
    | down down => exact h.plan running
    | lost up failed =>
      obtain ⟨-, -, -, -, -, -, -, -, -, -, rfl⟩ := pump_error failed (held.2 up)
      simpa [State.markLost_fst, exchanged, called] using h.plan running

/-- Whatever has happened, the record is coherent whenever it is free. -/
theorem reachable_coherent (r : Reachable b x) (free : x.call.holdsState = false) : Coherent b x :=
  r.inv.coherent free

/-- A session right after its first connect. -/
theorem connected_coherent :
    let x : Session Ledger _ _ _ := { settings := {}, outside := {} }
    let y := ((x.connect Ledger.backend 0 { host := "broker" } none).stepCall Ledger.backend 0).2
    y.state.status = .connected ∧ y.call.holdsState = false ∧ Coherent Ledger.backend y := by
  have r := Reachable.new (b := Ledger.backend) ({} : Settings) ({} : Ledger)
  have r := r.move (m := .connect 0 { host := "broker" } none) rfl
  have r := r.move (m := .call 0) trivial
  exact ⟨by decide, by decide, reachable_coherent r (by decide)⟩

end Session

end MqttLink
