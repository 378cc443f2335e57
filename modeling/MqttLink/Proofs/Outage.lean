import MqttLink.Proofs.Coherence

/-!
# Outages

An outage begins with the loss of a connection and is over when the loop is connected again or has
given up, unless somebody tells it to stop before. The attempts are numbered from one, and number zero
is the connection that was lost.
-/

namespace MqttLink

/-- How an attempt ended, or the connection that was lost. -/
inductive Ending where
  | success
  | failure (fault : Option Fault)

def Ending.of {κ : Type} : Except SessionError κ → Ending
  | .ok _ => success
  | .error e => failure e.fault?

/-- Whether there is no attempt after number `n`. A failure without a fault may heal. -/
def Settings.closes (s : Settings) (n : Nat) : Ending → Bool
  | .success => true
  | .failure fault => !fault.all (·.retriable s.retryUnknown) || n = s.maxRetries.toNat

theorem Settings.decide_of_not_closes {s : Settings} {f : Option Fault} {n : Nat}
    (bound : n ≤ s.maxRetries.toNat) (h : s.closes n (.failure f) = false) :
    s.decide f n false = .proceed (n + 1) (s.backoff.delay n) := by
  rw [Session.decide_eq_proceed]
  simp only [closes, Bool.or_eq_false_iff, Bool.not_eq_false', decide_eq_false_iff_not] at h
  exact ⟨h.1, by omega, rfl, rfl⟩

theorem Settings.not_closes_of_decide {s : Settings} {f : Option Fault} {n attempt : Nat}
    {delay : UInt64} (h : s.decide f n false = .proceed attempt delay) :
    s.closes n (.failure f) = false ∧ attempt = n + 1 := by
  obtain ⟨all, room, rfl, -⟩ := Session.decide_eq_proceed.1 h
  simp only [closes, all, Bool.not_true, Bool.false_or, decide_eq_false_iff_not]
  exact ⟨Nat.ne_of_lt room, trivial⟩

/-! ## The course of an outage -/

/-- What has happened since a connection was lost. -/
structure History where
  /-- The fault of the failure that ended the connection. -/
  loss : Option Fault
  /-- How the attempts ended, the first one first. -/
  attempts : List Ending := []
  /-- How many dials have begun. -/
  begun : Nat := 0
  /-- How often the loop has gone on. -/
  turns : Nat := 0

namespace History

def outcomes (h : History) : List Ending := .failure h.loss :: h.attempts

/-- Whether number `n` is over and there is no attempt after it. -/
def Closed (s : Settings) (h : History) (n : Nat) : Prop :=
  ∃ o, h.outcomes[n]? = some o ∧ s.closes n o = true

/-- Another attempt changes nothing about those before it. -/
theorem closed_of_append {s : Settings} {h h' : History} {o : Ending} {n : Nat}
    (more : h'.outcomes = h.outcomes ++ [o]) (hn : n ≤ h.attempts.length) (closed : h'.Closed s n) :
    h.Closed s n := by
  obtain ⟨p, hp, closes⟩ := closed
  rw [more, List.getElem?_append_left (by simp [outcomes]; omega)] at hp
  exact ⟨p, hp, closes⟩

end History

namespace Session

variable {ω κ δ φ : Type}

/-- Where the loop stands, if there is one. -/
def phase? (x : Session ω κ δ φ) : Option (Phase κ δ) := x.loop.map Loop.phase

def isRedialing (x : Session ω κ δ φ) : Bool :=
  match x.phase? with
  | some (.redialing _) => true
  | _ => false

/-- The attempt that is over in `y` and was not in `x`. -/
def attempt? (x y : Session ω κ δ φ) : Option Ending :=
  match x.phase?, y.phase? with
  | some (.redialing _), some (.redialed result) => some (.of result)
  | _, _ => none

/-- There is a loop, and nobody has told it to stop. -/
def isUnasked (x : Session ω κ δ φ) : Bool := x.loop.any (!·.stopping)

/-- What is known once a session has moved, by a turn of the loop or otherwise. -/
def noted (h : History) (x : Session ω κ δ φ) (move : Bool × Session ω κ δ φ) : History :=
  { h with
    attempts := h.attempts ++ (x.attempt? move.2).toList
    begun := h.begun + (!x.isRedialing && move.2.isRedialing).toNat
    turns := h.turns + move.1.toNat }

variable (b : Backend ω κ δ φ)

/-- The error that a move reports: that of an exchange, or that of the caller's operation. -/
def Move.error? (x : Session ω κ δ φ) : Move ω → Option SessionError
  | loop now =>
    match x.loop with
    | some ⟨.cycling, _, false⟩ =>
      if x.state.status = .connected ∧ x.call.holdsState = false then
        match (x.pump b now).1 with
        | .error e => some e
        | .ok () => none
      else none
    | _ => none
  | operate op =>
    match (x.operate b op).1 with
    | .error e => some e
    | .ok () => none
  | call _ | connect .. | disconnect _ | outside _ | collect | rest => none

/-- Whether the loop goes on. -/
def Move.isTurn (x : Session ω κ δ φ) : Move ω → Bool
  | loop now => (x.stepLoop b now).1
  | call _ | connect .. | disconnect _ | operate _ | outside _ | collect | rest => false

/-- A connected session loses its connection, and then anything happens but a stop request. -/
inductive Outage : History → Session ω κ δ φ → Prop
  | lost {x : Session ω κ δ φ} {m : Move ω} (reachable : Reachable b x)
      (up : x.state.status = .connected) (allowed : m.Allowed x)
      (down : (m.run b x).state.status ≠ .connected) (unasked : (m.run b x).isUnasked = true) :
      Outage { loss := (m.error? b x).bind SessionError.fault? } (m.run b x)
  | move {h : History} {x : Session ω κ δ φ} {m : Move ω} (outage : Outage h x)
      (down : x.state.status ≠ .connected) (allowed : m.Allowed x)
      (unasked : (m.run b x).isUnasked = true) : Outage (noted h x (m.isTurn b x, m.run b x)) (m.run b x)

/-! ## Where the loop stands -/

/-- How many turns of the loop are left at most. -/
def turnsLeft (x : Session ω κ δ φ) : Nat :=
  let rest := 5 * (x.settings.maxRetries.toNat - x.state.retries)
  if x.state.status = .connected then 0
  else match x.phase? with
  | none | some .ended => 0
  | some .cycling => rest + 1
  | some (.resting _) => rest + 2
  | some (.redialed _) => rest + 3
  | some (.redialing _) => rest + 4
  | some (.backingOff ..) => rest + 5

/-- What the place of the loop says about the attempts so far, of which there are `n`. -/
inductive Stands (h : History) (x : Session ω κ δ φ) (n : Nat) : Prop
  | back (phase : x.phase? = some .cycling) (up : x.state.status = .connected) (begun : h.begun = n)
      (last : h.outcomes[n]? = some .success)
  | deciding (phase : x.phase? = some .cycling ∨ ∃ time, x.phase? = some (.resting time))
      (down : x.state.status ≠ .connected) (begun : h.begun = n) (retries : x.state.retries = n)
      (last : h.outcomes[n]? = some (.failure x.state.lastFault))
  | waiting {time : Appointment} {plan : ConnectPlan} {handler : Option Handler}
      (phase : x.phase? = some (.backingOff time plan handler)) (begun : h.begun = n)
      (retries : x.state.retries = n + 1) (undecided : ¬ h.Closed x.settings n)
  | dialing {dial : δ} (phase : x.phase? = some (.redialing dial)) (begun : h.begun = n + 1)
      (retries : x.state.retries = n + 1) (undecided : ¬ h.Closed x.settings n)
  | dialed {result : Except SessionError κ} (phase : x.phase? = some (.redialed result))
      (begun : h.begun = n) (retries : x.state.retries = n) (last : h.outcomes[n]? = some (.of result))
  | past {fault : Option Fault} (phase : x.phase? = some .ended)
      (gaveUp : x.state.status = .reconnectFailed) (begun : h.begun = n)
      (retries : x.state.retries = n) (last : h.outcomes[n]? = some (.failure fault))
      (closed : x.settings.closes n (.failure fault) = true)

/-- What every move keeps during an outage. -/
structure Along (h : History) (x : Session ω κ δ φ) : Prop where
  loss : h.loss.isSome = true
  inv : Inv x
  unasked : x.isUnasked = true
  stands : Stands h x h.attempts.length
  open_ : ∀ n < h.attempts.length, ¬ h.Closed x.settings n
  turns : h.turns + x.turnsLeft ≤ 5 * x.settings.maxRetries.toNat + 2

section

variable {b} {h : History} {x y : Session ω κ δ φ}

/-- A loop that nobody has told to stop is one that nobody is waiting for. -/
theorem Inv.isOver (inv : Inv x) (unasked : x.isUnasked = true) : x.call.isOver = true := by
  rw [isUnasked, Option.any_eq_true] at unasked
  obtain ⟨l, hl, goes⟩ := unasked
  rw [inv.asked l hl, Bool.not_not] at goes
  exact goes

theorem tearDown_asks (running : x.loop.isSome) (now : Nat) (goal : Goal) :
    (x.tearDown b now goal).isUnasked = false := by
  obtain ⟨l, hl⟩ := Option.isSome_iff_exists.1 running
  simp [tearDown, isUnasked, hl]

/-- A connect that does not stop a loop is one that was refused. -/
theorem connect_unasked (running : x.loop.isSome) {now : Nat} {request : ConnectRequest}
    {handler : Option Handler} (unasked : (x.connect b now request handler).isUnasked = true) :
    ∃ e, x.connect b now request handler = { x with call := .finished (.error e) } := by
  unfold Session.connect at unasked ⊢
  split at unasked
  · exact ⟨_, rfl⟩
  · rw [tearDown_asks running] at unasked
    cases unasked

theorem isSome_of_isUnasked (unasked : x.isUnasked = true) : x.loop.isSome := by
  rw [isUnasked, Option.any_eq_true] at unasked
  obtain ⟨l, hl, -⟩ := unasked
  rw [hl]
  rfl

/-! ## Every move keeps it -/

/-- Nothing is noted as long as the loop stays where it is. -/
theorem noted_of_phase?_eq (phase : y.phase? = x.phase?) {turn : Bool} :
    noted h x (turn, y) = { h with turns := h.turns + turn.toNat } := by
  have none_ : x.attempt? y = none := by
    rw [attempt?, phase]
    split <;> simp_all
  simp [noted, none_, isRedialing, phase]

theorem noted_of_not_redialing (hx : x.isRedialing = false) (hy : y.isRedialing = false)
    {turn : Bool} : noted h x (turn, y) = { h with turns := h.turns + turn.toNat } := by
  have none_ : x.attempt? y = none := by
    unfold isRedialing at hx
    unfold attempt?
    split <;> simp_all
  simp [noted, none_, hx, hy]

/-- The record and the place of the loop say it all. -/
theorem Along.stay (a : Along h x) (inv : Inv y) (unasked : y.isUnasked = true)
    (state : y.state = x.state) (settings : y.settings = x.settings) (phase : y.phase? = x.phase?) :
    Along h y where
  loss := a.loss
  inv := inv
  unasked := unasked
  stands := by
    cases a.stands with
    | back at_ up begun last => exact .back (phase.trans at_) (by rwa [state]) begun last
    | deciding at_ down begun retries last =>
      exact .deciding (by rwa [phase]) (by rwa [state]) begun (by rwa [state]) (by rwa [state])
    | waiting at_ begun retries undecided =>
      exact .waiting (phase.trans at_) begun (by rwa [state]) (by rwa [settings])
    | dialing at_ begun retries undecided =>
      exact .dialing (phase.trans at_) begun (by rwa [state]) (by rwa [settings])
    | dialed at_ begun retries last =>
      exact .dialed (phase.trans at_) begun (by rwa [state]) last
    | past at_ gaveUp begun retries last closed =>
      exact .past (phase.trans at_) (by rwa [state]) begun (by rwa [state]) last (by rwa [settings])
  open_ := by rw [settings]; exact a.open_
  turns := by
    rw [turnsLeft, state, settings, phase]
    exact a.turns

/-- A decision is made on what the last failure left. -/
theorem Along.decides (a : Along h x) (phase : x.phase? = some .cycling)
    (down : x.state.status ≠ .connected) :
    h.begun = h.attempts.length ∧ x.state.retries = h.attempts.length ∧
      h.outcomes[h.attempts.length]? = some (.failure x.state.lastFault) := by
  cases a.stands with
  | back _ up => exact absurd up down
  | deciding _ _ begun retries last => exact ⟨begun, retries, last⟩
  | waiting at_ | dialing at_ | dialed at_ | past at_ =>
    rw [phase] at at_
    cases at_

theorem Along.schedule {attempt : Nat} {delay : UInt64} {time : Appointment} {plan : ConnectPlan}
    {handler : Option Handler} {turns : Nat} (a : Along h x) (phase : x.phase? = some .cycling)
    (down : x.state.status ≠ .connected)
    (decided : x.settings.decide x.state.lastFault x.state.retries false = .proceed attempt delay)
    (inv : Inv y) (unasked : y.isUnasked = true)
    (state : y.state = { x.state with retries := attempt }.notify b)
    (settings : y.settings = x.settings) (phase' : y.phase? = some (.backingOff time plan handler))
    (turns_le : turns ≤ h.turns + 1) : Along { h with turns } y := by
  obtain ⟨begun, retries, last⟩ := a.decides phase down
  obtain ⟨open_, rfl⟩ := Settings.not_closes_of_decide decided
  have left := a.turns
  have room := (decide_eq_proceed.1 decided).2.1
  constructor
  case loss => exact a.loss
  case inv => exact inv
  case unasked => exact unasked
  case stands =>
    refine .waiting phase' begun (by simp [state, retries]) ?_
    rintro ⟨o, ho, closes⟩
    rw [show ({ h with turns } : History).outcomes = h.outcomes from rfl, last] at ho
    cases ho
    rw [settings, ← retries, open_] at closes
    cases closes
  case open_ =>
    rw [settings]
    exact a.open_
  case turns =>
    simp only [turnsLeft, phase, if_neg down] at left
    simp only [turnsLeft, phase', state, State.notify_status, State.notify_retries, if_neg down, settings]
    omega

theorem Along.giveUp {turns : Nat} (a : Along h x) (phase : x.phase? = some .cycling)
    (down : x.state.status ≠ .connected)
    (decided : ∀ attempt delay,
      x.settings.decide x.state.lastFault x.state.retries false ≠ .proceed attempt delay)
    (inv : Inv y) (unasked : y.isUnasked = true)
    (state : y.state = x.state.setStatus b .reconnectFailed)
    (settings : y.settings = x.settings) (phase' : y.phase? = some .ended)
    (turns_le : turns ≤ h.turns + 1) : Along { h with turns } y := by
  obtain ⟨begun, retries, last⟩ := a.decides phase down
  have left := a.turns
  have closed : x.settings.closes x.state.retries (.failure x.state.lastFault) = true := by
    by_cases e : x.settings.closes x.state.retries (.failure x.state.lastFault) = true
    · exact e
    · exact absurd (Settings.decide_of_not_closes a.inv.retries_le (by simpa using e)) (decided _ _)
  constructor
  case loss => exact a.loss
  case inv => exact inv
  case unasked => exact unasked
  case stands =>
    refine .past phase' (by simp [state, State.setStatus]) begun ?_ last ?_
    · simpa [state, State.setStatus] using retries
    · rwa [settings, ← retries]
  case open_ =>
    rw [settings]
    exact a.open_
  case turns =>
    simp only [turnsLeft, phase, if_neg down] at left
    simp [turnsLeft, phase', settings]
    omega

theorem phase?_of_loop {p : Phase κ δ} {awake stopping : Bool}
    (loop : x.loop = some ⟨p, awake, stopping⟩) : x.phase? = some p := by
  rw [phase?, loop]
  rfl

theorem wait_phase? (now time : Nat) {p : Appointment → Phase κ δ} {q : Phase κ δ}
    (phase : x.phase? = some q) : ∃ appointment, (x.wait b now time p).phase? = some (p appointment) := by
  obtain ⟨awake, hw⟩ := wait_loop b now time p x
  rw [phase?, Option.map_eq_some_iff] at phase
  obtain ⟨l, hl, -⟩ := phase
  exact ⟨_, by rw [phase?, hw, hl]; rfl⟩

theorem setPhase_phase? {p q : Phase κ δ} (phase : x.phase? = some q) :
    (x.setPhase p).phase? = some p := by
  rw [phase?, Option.map_eq_some_iff] at phase
  obtain ⟨l, hl, -⟩ := phase
  rw [phase?, setPhase_loop, hl]
  rfl

theorem Along.rested {time : Appointment} (a : Along h x) (down : x.state.status ≠ .connected)
    (phase : x.phase? = some (.resting time)) (inv : Inv y) (unasked : y.isUnasked = true)
    (state : y.state = x.state) (settings : y.settings = x.settings)
    (phase' : y.phase? = some .cycling) : Along { h with turns := h.turns + 1 } y := by
  have left := a.turns
  cases a.stands with
  | deciding _ _ begun retries last =>
    constructor
    case loss => exact a.loss
    case inv => exact inv
    case unasked => exact unasked
    case stands => exact .deciding (.inl phase') (by rwa [state]) begun (by rwa [state]) (by rwa [state])
    case open_ => rw [settings]; exact a.open_
    case turns =>
      simp only [turnsLeft, phase, if_neg down] at left
      simp only [turnsLeft, phase', state, settings, if_neg down]
      omega
  | back at_ | waiting at_ | dialing at_ | dialed at_ | past at_ =>
    rw [phase] at at_
    cases at_

theorem Along.redial {time : Appointment} {plan : ConnectPlan} {handler : Option Handler} {dial : δ}
    (a : Along h x) (down : x.state.status ≠ .connected)
    (phase : x.phase? = some (.backingOff time plan handler)) (inv : Inv y)
    (unasked : y.isUnasked = true) (down' : y.state.status ≠ .connected)
    (retries' : y.state.retries = x.state.retries) (settings : y.settings = x.settings)
    (phase' : y.phase? = some (.redialing dial)) : Along (noted h x (true, y)) y := by
  have left := a.turns
  have known : noted h x (true, y) = { h with begun := h.begun + 1, turns := h.turns + 1 } := by
    simp [noted, attempt?, isRedialing, phase, phase']
  rw [known]
  cases a.stands with
  | waiting _ begun retries undecided =>
    constructor
    case loss => exact a.loss
    case inv => exact inv
    case unasked => exact unasked
    case stands => exact .dialing phase' (by simp [begun]) (by simp [retries', retries]) (by rwa [settings])
    case open_ => rw [settings]; exact a.open_
    case turns =>
      simp only [turnsLeft, phase, if_neg down] at left
      simp only [turnsLeft, phase', settings, if_neg down', retries']
      omega
  | deciding at_ => simp [phase] at at_
  | back at_ | dialing at_ | dialed at_ | past at_ =>
    rw [phase] at at_
    cases at_

theorem Along.dialOn {dial dial' : δ} (a : Along h x) (phase : x.phase? = some (.redialing dial))
    (inv : Inv y) (unasked : y.isUnasked = true) (state : y.state = x.state)
    (settings : y.settings = x.settings) (phase' : y.phase? = some (.redialing dial')) :
    Along (noted h x (false, y)) y := by
  have left := a.turns
  have known : noted h x (false, y) = h := by
    simp [noted, attempt?, isRedialing, phase, phase']
  rw [known]
  cases a.stands with
  | dialing _ begun retries undecided =>
    constructor
    case loss => exact a.loss
    case inv => exact inv
    case unasked => exact unasked
    case stands => exact .dialing phase' begun (by rwa [state]) (by rwa [settings])
    case open_ => rw [settings]; exact a.open_
    case turns =>
      simp only [turnsLeft, phase] at left
      simpa only [turnsLeft, phase', state, settings] using left
  | deciding at_ => simp [phase] at at_
  | back at_ | waiting at_ | dialed at_ | past at_ =>
    rw [phase] at at_
    cases at_

theorem Along.dialed {dial : δ} {result : Except SessionError κ} (a : Along h x)
    (down : x.state.status ≠ .connected) (phase : x.phase? = some (.redialing dial)) (inv : Inv y)
    (unasked : y.isUnasked = true) (state : y.state = x.state) (settings : y.settings = x.settings)
    (phase' : y.phase? = some (.redialed result)) : Along (noted h x (true, y)) y := by
  have left := a.turns
  have known : noted h x (true, y) =
      { h with attempts := h.attempts ++ [.of result], turns := h.turns + 1 } := by
    simp [noted, attempt?, isRedialing, phase, phase']
  rw [known]
  cases a.stands with
  | dialing _ begun retries undecided =>
    constructor
    case loss => exact a.loss
    case inv => exact inv
    case unasked => exact unasked
    case stands =>
      refine .dialed phase' (by simp [begun]) (by simp [state, retries]) ?_
      simp [History.outcomes]
    case open_ =>
      intro n hn closed
      rw [List.length_append, List.length_singleton, Nat.lt_succ_iff] at hn
      rw [settings] at closed
      have closed' := History.closed_of_append (h := h) rfl hn closed
      rcases Nat.lt_or_eq_of_le hn with lt | rfl
      · exact a.open_ n lt closed'
      · exact undecided closed'
    case turns =>
      simp only [turnsLeft, phase, if_neg down] at left
      simp only [turnsLeft, phase', settings, state, if_neg down]
      omega
  | deciding at_ => simp [phase] at at_
  | back at_ | waiting at_ | dialed at_ | past at_ =>
    rw [phase] at at_
    cases at_

theorem Along.recorded {client : κ} (a : Along h x) (down : x.state.status ≠ .connected)
    (phase : x.phase? = some (.redialed (.ok client))) (inv : Inv y) (unasked : y.isUnasked = true)
    (up : y.state.status = .connected) (settings : y.settings = x.settings)
    (phase' : y.phase? = some .cycling) : Along { h with turns := h.turns + 1 } y := by
  have left := a.turns
  cases a.stands with
  | dialed at_ begun retries last =>
    rw [phase] at at_
    cases at_
    constructor
    case loss => exact a.loss
    case inv => exact inv
    case unasked => exact unasked
    case stands => exact .back phase' up begun last
    case open_ => rw [settings]; exact a.open_
    case turns =>
      simp only [turnsLeft, phase, if_neg down] at left
      simp only [turnsLeft, if_pos up, settings]
      omega
  | deciding at_ => simp [phase] at at_
  | back at_ | waiting at_ | dialing at_ | past at_ =>
    rw [phase] at at_
    cases at_

theorem Along.failed {e : SessionError} {time : Appointment} (a : Along h x)
    (down : x.state.status ≠ .connected) (phase : x.phase? = some (.redialed (.error e))) (inv : Inv y)
    (unasked : y.isUnasked = true)
    (state : y.state = (x.state.recordError b e).setStatus b .disconnected)
    (settings : y.settings = x.settings) (phase' : y.phase? = some (.resting time)) :
    Along { h with turns := h.turns + 1 } y := by
  have left := a.turns
  have down' : y.state.status ≠ .connected := by simp [state, State.setStatus]
  have retries' : y.state.retries = x.state.retries := by rw [state]; rfl
  cases a.stands with
  | dialed at_ begun retries last =>
    rw [phase] at at_
    cases at_
    constructor
    case loss => exact a.loss
    case inv => exact inv
    case unasked => exact unasked
    case stands =>
      refine .deciding (.inr ⟨_, phase'⟩) down' begun (retries'.trans retries) ?_
      rw [state]
      exact last
    case open_ => rw [settings]; exact a.open_
    case turns =>
      simp only [turnsLeft, phase, if_neg down] at left
      simp only [turnsLeft, phase', if_neg down', settings, retries']
      omega
  | deciding at_ => simp [phase] at at_
  | back at_ | waiting at_ | dialing at_ | past at_ =>
    rw [phase] at at_
    cases at_

theorem Along.loopStep {now : Nat} {r : Bool × Session ω κ δ φ} (a : Along h x)
    (down : x.state.status ≠ .connected) (s : LoopStep b now x r) (unasked : r.2.isUnasked = true) :
    Along (noted h x r) r.2 := by
  have inv := a.inv.loopStep s
  cases s with
  | stay =>
    rw [noted_of_phase?_eq rfl]
    exact a
  | block =>
    have phase : x.block.phase? = x.phase? := by simp [phase?, Function.comp_def]
    rw [noted_of_phase?_eq phase]
    exact a.stay inv unasked rfl rfl phase
  | stop running stopping alive =>
    simp [isUnasked, endLoop_loop, running, stopping] at unasked
  | exchange loop free up went => exact absurd up down
  | @schedule awake y attempt delay plan loop free deciding decided planned =>
    have phase := phase?_of_loop loop
    cases deciding with
    | lost up failed => exact absurd up down
    | down _ =>
      obtain ⟨time, phase'⟩ := wait_phase? (b := b) now delay.toNat
        (p := (.backingOff · plan x.state.handler))
        (x := x.update fun s => { s with retries := attempt }.notify b) phase
      rw [noted_of_not_redialing (by simp [isRedialing, phase]) (by simp [isRedialing, phase'])]
      exact a.schedule phase down decided inv unasked (wait_state ..) (wait_settings ..) phase'
        (Nat.le_refl _)
  | @unplanned awake y loop free deciding unplanned =>
    obtain ⟨hy, hl, -⟩ := a.inv.deciding free loop deciding
    simpa [unplanned] using (hy.looping _ (hl.trans loop)).2
  | @giveUp awake y loop free deciding decided =>
    have phase := phase?_of_loop loop
    cases deciding with
    | lost up failed => exact absurd up down
    | down _ =>
      have phase' := setPhase_phase? (x := x.update (State.setStatus b .reconnectFailed))
        (p := .ended) phase
      rw [noted_of_not_redialing (by simp [isRedialing, phase]) (by simp [isRedialing, phase'])]
      exact a.giveUp phase down decided inv unasked rfl rfl phase' (Nat.le_refl _)
  | rested loop due =>
    have phase := phase?_of_loop loop
    have phase' := setPhase_phase? (p := .cycling) phase
    rw [noted_of_not_redialing (by simp [isRedialing, phase]) (by simp [isRedialing, phase'])]
    exact a.rested down phase inv unasked rfl rfl phase'
  | @redial awake time plan handler loop due free =>
    have phase := phase?_of_loop loop
    refine a.redial down phase inv unasked ?_ ?_ rfl (setPhase_phase? phase)
    · simp [Session.redial, State.setStatus]
    · simp [Session.redial, State.setStatus, State.dropConnection_fst]
  | @dialOn awake dial dial' w loop polled =>
    have phase := phase?_of_loop loop
    have phase' : (({ x with outside := w }.setPhase (.redialing dial')).block).phase? =
        some (.redialing dial') := by
      simp [phase?, loop]
    exact a.dialOn phase inv unasked rfl rfl phase'
  | dialed loop polled =>
    have phase := phase?_of_loop loop
    exact a.dialed down phase inv unasked rfl rfl (setPhase_phase? phase)
  | @record awake result loop free =>
    have phase := phase?_of_loop loop
    cases result with
    | ok client =>
      have phase' : (x.recordRedial b now (.ok client)).phase? = some .cycling := by
        simp [recordRedial, phase?, loop]
      rw [noted_of_not_redialing (by simp [isRedialing, phase]) (by simp [isRedialing, phase'])]
      refine a.recorded down phase inv unasked ?_ (by simp [recordRedial]) phase'
      simp [recordRedial, State.install, State.setStatus, State.restoreSubscriptions]
    | error e =>
      obtain ⟨time, phase'⟩ := wait_phase? (b := b) now x.settings.syncInterval (p := .resting)
        (x := x.update fun s => (s.recordError b e).setStatus b .disconnected) phase
      rw [noted_of_not_redialing (by simp [isRedialing, phase])
        (by simp [isRedialing, recordRedial, phase'])]
      exact a.failed down phase inv unasked (wait_state ..) (wait_settings ..) phase'

/-- Without a connection only the loop gets anywhere. -/
theorem elsewhere {m : Move ω} (inv : Inv x) (unasked : x.isUnasked = true)
    (down : x.state.status ≠ .connected) (unasked' : (m.run b x).isUnasked = true)
    (other : ∀ now, m ≠ .loop now) :
    (m.run b x).state = x.state ∧ (m.run b x).phase? = x.phase? ∧ m.isTurn b x = false := by
  have running := isSome_of_isUnasked unasked
  cases m with
  | loop now => exact absurd rfl (other now)
  | call now =>
    have same : (Move.call now).run b x = x :=
      congrArg Prod.snd (stepCall_of_isOver (inv.isOver unasked) now)
    rw [same]
    exact ⟨rfl, rfl, rfl⟩
  | connect now request handler =>
    obtain ⟨e, refused⟩ := connect_unasked running unasked'
    rw [show (Move.connect now request handler).run b x = _ from refused]
    exact ⟨rfl, rfl, rfl⟩
  | disconnect now =>
    rw [show ((Move.disconnect now).run b x).isUnasked = false from tearDown_asks running ..] at unasked'
    cases unasked'
  | operate op =>
    have same : (Move.operate op).run b x = x := operate_of_down b op down
    rw [same]
    exact ⟨rfl, rfl, rfl⟩
  | outside w | collect | rest => exact ⟨rfl, rfl, rfl⟩

theorem Along.move {m : Move ω} (a : Along h x) (down : x.state.status ≠ .connected)
    (allowed : m.Allowed x) (unasked : (m.run b x).isUnasked = true) :
    Along (noted h x (m.isTurn b x, m.run b x)) (m.run b x) := by
  by_cases turn : ∃ now, m = .loop now
  · obtain ⟨now, rfl⟩ := turn
    exact a.loopStep down (Session.loopStep b now x) unasked
  · obtain ⟨state, phase, turn⟩ := elsewhere a.inv a.unasked down unasked fun now e => turn ⟨now, e⟩
    rw [noted_of_phase?_eq phase, turn]
    exact a.stay (a.inv.move allowed) unasked state (Move.run_settings m x) phase

/-! ## It begins with the loss -/

/-- A session that has just lost its connection. -/
theorem Along.start (inv : Inv x) (unasked : x.isUnasked = true)
    (phase : x.phase? = some .cycling ∨ ∃ time, x.phase? = some (.resting time))
    (down : x.state.status ≠ .connected) (retries : x.state.retries = 0)
    (loss : x.state.lastFault.isSome = true) : Along { loss := x.state.lastFault } x where
  loss := loss
  inv := inv
  unasked := unasked
  stands := .deciding phase down rfl retries rfl
  open_ n hn := by simp at hn
  turns := by
    obtain phase | ⟨time, phase⟩ := phase <;>
      simp [turnsLeft, phase, down, retries]

/-- The exchange that failed is the loss, and what it reports is what the loop decides on. -/
theorem Along.ofExchange {now : Nat} {awake : Bool} {e : SessionError} (inv : Inv x)
    (loop : x.loop = some ⟨.cycling, awake, false⟩) (free : x.call.holdsState = false)
    (up : x.state.status = .connected) (failed : x.pump b now = (.error e, y)) :
    Along { loss := ((Move.loop now).error? b x).bind SessionError.fault? }
        (y.act (State.markLost b e)) ∧
      (y.act (State.markLost b e)).phase? = some .cycling ∧
      (y.act (State.markLost b e)).state.status ≠ .connected := by
  obtain ⟨inv', loop', -, -, -, retries, down⟩ := inv.deciding free loop (.lost up failed)
  rw [loop] at loop'
  have phase := phase?_of_loop loop'
  have reported : (Move.loop now).error? b x = some e := by
    simp [Move.error?, loop, up, free, failed]
  obtain ⟨-, -, -, -, f, -, -, -, -, rfl, -⟩ := pump_error failed
    ((inv.client_iff (Call.not_leaving free)).2 up)
  have start := start inv' (by rw [isUnasked, loop']; rfl) (.inl phase) down
    (retries.trans (inv.up up).1) (by rw [act_state, State.markLost_fst]; rfl)
  rw [act_state, State.markLost_fst] at start
  rw [reported]
  exact ⟨start, phase, down⟩

theorem Along.lostByLoop {now : Nat} {r : Bool × Session ω κ δ φ} (inv : Inv x)
    (up : x.state.status = .connected) (s : LoopStep b now x r) (down : r.2.state.status ≠ .connected)
    (unasked : r.2.isUnasked = true) :
    Along { loss := ((Move.loop now).error? b x).bind SessionError.fault? } r.2 := by
  have inv' := inv.loopStep s
  cases s with
  | stay | block | rested | dialOn | dialed => exact absurd up down
  | stop running stopping alive =>
    simp [isUnasked, endLoop_loop, running, stopping] at unasked
  | exchange loop free _ went =>
    obtain ⟨client, client', w, messages, -, -, -, rfl⟩ := pump_ok went
    exact absurd up (by simpa [exchanged, called] using down)
  | @schedule awake y attempt delay plan loop free deciding decided planned =>
    cases deciding with
    | down down' => exact absurd up down'
    | @lost e y _ failed =>
      obtain ⟨a, phase, down'⟩ := ofExchange inv loop free up failed
      obtain ⟨time, phase'⟩ := wait_phase? (b := b) now delay.toNat
        (p := (.backingOff · plan (y.act (State.markLost b e)).state.handler))
        (x := (y.act (State.markLost b e)).update fun s => { s with retries := attempt }.notify b) phase
      exact a.schedule phase down' decided inv' unasked (wait_state ..) (wait_settings ..) phase'
        (Nat.zero_le _)
  | unplanned loop free deciding unplanned =>
    obtain ⟨hy, hl, -⟩ := inv.deciding free loop deciding
    simpa [unplanned] using (hy.looping _ (hl.trans loop)).2
  | @giveUp awake y loop free deciding decided =>
    cases deciding with
    | down down' => exact absurd up down'
    | @lost e y _ failed =>
      obtain ⟨a, phase, down'⟩ := ofExchange inv loop free up failed
      exact a.giveUp phase down' decided inv' unasked rfl rfl (setPhase_phase? phase) (Nat.zero_le _)
  | redial loop due free => exact absurd rfl (inv.home up loop)
  | record loop free => exact absurd rfl (inv.home up loop)

/-- A loop that nobody has told to stop cycles or rests while there is a connection. -/
theorem Inv.phase_of_up (inv : Inv x) (up : x.state.status = .connected) (unasked : x.isUnasked = true) :
    x.phase? = some .cycling ∨ ∃ time, x.phase? = some (.resting time) := by
  rw [isUnasked, Option.any_eq_true] at unasked
  obtain ⟨⟨p, awake, stopping⟩, loop, goes⟩ := unasked
  have phase := phase?_of_loop loop
  cases p with
  | cycling => exact .inl phase
  | resting time => exact .inr ⟨time, phase⟩
  | ended =>
    obtain rfl : stopping = true := inv.stopped up loop rfl
    cases goes
  | backingOff | redialing | redialed => exact absurd rfl (inv.home up loop)

/-- Only a turn of the loop or an operation loses a connection and leaves the loop unasked. -/
theorem operates_of_lost {m : Move ω} (inv : Inv x) (up : x.state.status = .connected)
    (down : (m.run b x).state.status ≠ .connected) (unasked : (m.run b x).isUnasked = true)
    (other : ∀ now, m ≠ .loop now) : ∃ op, m = .operate op := by
  cases m with
  | loop now => exact absurd rfl (other now)
  | operate op => exact ⟨op, rfl⟩
  | call now =>
    change (x.stepCall b now).2.state.status ≠ _ at down
    change (x.stepCall b now).2.isUnasked = true at unasked
    have s := Session.callStep b now x
    generalize x.stepCall b now = r at s down unasked
    cases s with
    | stay | join | leaveOn | left | dialOn => exact absurd up down
    | leave call _ held => simp [sayGoodbye, up, held] at down
    | @clear goal call past => cases goal <;> simp [pursue, dialFor, isUnasked] at unasked
    | dialed call polled =>
      have status := (inv.dialing _ call).2.1
      rw [up] at status
      cases status
  | connect now request handler =>
    obtain ⟨e, refused⟩ := connect_unasked (inv.up up).2 unasked
    rw [show (Move.connect now request handler).run b x = _ from refused] at down
    exact absurd up down
  | disconnect now =>
    rw [show ((Move.disconnect now).run b x).isUnasked = false from
      tearDown_asks (inv.up up).2 ..] at unasked
    cases unasked
  | outside w | collect | rest => exact absurd up down

theorem Along.lost {m : Move ω} (inv : Inv x) (up : x.state.status = .connected)
    (allowed : m.Allowed x) (down : (m.run b x).state.status ≠ .connected)
    (unasked : (m.run b x).isUnasked = true) :
    Along { loss := (m.error? b x).bind SessionError.fault? } (m.run b x) := by
  by_cases turn : ∃ now, m = .loop now
  · obtain ⟨now, rfl⟩ := turn
    exact lostByLoop inv up (Session.loopStep b now x) down unasked
  · obtain ⟨op, rfl⟩ := operates_of_lost inv up down unasked fun now e => turn ⟨now, e⟩
    have inv' : Inv (x.operate b op).2 := inv.move (m := .operate op) allowed
    change (x.operate b op).2.state.status ≠ _ at down
    change (x.operate b op).2.isUnasked = true at unasked
    change Along { loss := ((Move.operate op).error? b x).bind SessionError.fault? } (x.operate b op).2
    simp only [Move.error?]
    have s := Session.operateStep b op x
    generalize x.operate b op = r at s down unasked inv' ⊢
    cases s with
    | refuse | succeed | fail => exact absurd up down
    | «break» _ held ran broken =>
      have start := start inv' unasked (inv.phase_of_up up unasked) down
        (by simp [State.markLost_fst, called, inv.up up]) (by rw [act_state, State.markLost_fst]; rfl)
      rw [act_state, State.markLost_fst] at start
      exact start

theorem Outage.along (o : Outage b h x) : Along h x := by
  induction o with
  | lost reachable up allowed down unasked => exact .lost reachable.inv up allowed down unasked
  | move _ down allowed unasked ih => exact ih.move down allowed unasked

/-! ## How it ends -/

variable (b) in
/-- Whether what the loop waits for has come. -/
def mayGoOn (now : Nat) (x : Session ω κ δ φ) : Prop :=
  match x.phase? with
  | some (.resting time) | some (.backingOff time _ _) => time.due ≤ now
  | some (.redialing dial) => (b.pollDial now dial x.outside).1.isDone = true
  | some .cycling | some (.redialed _) | some .ended | none => True

variable (b) in
/-- What is true of an outage at any time, after `h.attempts.length` attempts. -/
structure Course (h : History) (x : Session ω κ δ φ) : Prop where
  /-- A connection is lost by a failure that was reported, and that has a fault. -/
  loss : h.loss.isSome = true
  /-- No attempt was made after one, or after a loss, that closed the outage. -/
  open_ : ∀ n < h.attempts.length, ¬ h.Closed x.settings n
  /-- Attempts are made one at a time, and only as long as nothing has closed the outage. -/
  begun : h.begun = h.attempts.length ∨ h.begun = h.attempts.length + 1 ∧
    x.isRedialing = true ∧ ¬ h.Closed x.settings h.attempts.length
  /-- The loop is connected again or has ended only after what closed the outage. -/
  settled : x.state.status = .connected ∨ x.phase? = some .ended →
    h.begun = h.attempts.length ∧ ∃ o, h.outcomes[h.attempts.length]? = some o ∧
      x.settings.closes h.attempts.length o = true ∧
      match o with
      | .success => 1 ≤ h.attempts.length ∧ x.state.status = .connected ∧ x.state.retries = 0
      | .failure _ => x.state.status = .reconnectFailed ∧ x.phase? = some .ended ∧
        x.state.retries = h.attempts.length
  /-- This takes the loop only so many turns. -/
  turns : h.turns ≤ 5 * x.settings.maxRetries.toNat + 2
  /-- Until then there is always another turn. -/
  goes : x.phase? ≠ some .ended → ∀ now, x.mayGoOn b now → (x.stepLoop b now).1 = true

theorem Inv.not_up (inv : Inv x) {p : Phase κ δ} (phase : x.phase? = some p)
    (away : p.isAway = true) : x.state.status ≠ .connected := by
  rw [phase?, Option.map_eq_some_iff] at phase
  obtain ⟨l, loop, rfl⟩ := phase
  exact inv.away l loop away

theorem Along.settled (a : Along h x)
    (past : x.state.status = .connected ∨ x.phase? = some .ended) :
    h.begun = h.attempts.length ∧ ∃ o, h.outcomes[h.attempts.length]? = some o ∧
      x.settings.closes h.attempts.length o = true ∧
      match o with
      | .success => 1 ≤ h.attempts.length ∧ x.state.status = .connected ∧ x.state.retries = 0
      | .failure _ => x.state.status = .reconnectFailed ∧ x.phase? = some .ended ∧
        x.state.retries = h.attempts.length := by
  cases a.stands with
  | back _ up begun last =>
    refine ⟨begun, _, last, rfl, ?_, up, (a.inv.up up).1⟩
    rcases Nat.eq_zero_or_pos h.attempts.length with none_ | some_
    · rw [none_] at last
      cases last
    · exact some_
  | past phase gaveUp begun retries last closed =>
    exact ⟨begun, _, last, closed, gaveUp, phase, retries⟩
  | deciding phase down =>
    obtain phase | ⟨time, phase⟩ := phase <;>
      simp [phase, down] at past
  | waiting phase | dialing phase | dialed phase =>
    simp [phase, a.inv.not_up phase rfl] at past

theorem Along.goes (a : Along h x) (alive : x.phase? ≠ some .ended) (now : Nat)
    (may : x.mayGoOn b now) : (x.stepLoop b now).1 = true := by
  have free : x.call.holdsState = false := Call.not_holdsState_of_over (a.inv.isOver a.unasked)
  have unasked := a.unasked
  rw [isUnasked, Option.any_eq_true] at unasked
  obtain ⟨⟨p, awake, stopping⟩, loop, goes⟩ := unasked
  obtain rfl : stopping = false := by simpa using goes
  have phase := phase?_of_loop loop
  rw [mayGoOn, phase] at may
  cases p with
  | ended => exact absurd phase alive
  | redialing dial =>
    rcases polled : b.pollDial now dial x.outside with ⟨progress, w⟩
    cases progress with
    | waiting => simp [polled, Progress.isDone] at may
    | done => simp [stepLoop, loop, polled]
  | cycling | resting | backingOff | redialed => simp_all [stepLoop]

/-- The loop makes attempts up to the first that succeeds, fails for good or is the last one allowed,
and whatever went wrong before the loss makes no difference. -/
theorem outage_course (o : Outage b h x) : Course b h x where
  loss := o.along.loss
  open_ := o.along.open_
  begun := by
    cases o.along.stands with
    | dialing phase begun retries undecided => exact .inr ⟨begun, by rw [isRedialing, phase], undecided⟩
    | back _ _ begun | deciding _ _ begun | waiting _ begun | dialed _ begun | past _ _ begun =>
      exact .inl begun
  settled := o.along.settled
  turns := Nat.le_of_add_right_le o.along.turns
  goes := o.along.goes

/-- One attempt is allowed, and the broker cannot be reached. -/
theorem outage_course_unreachable :
    ∃ (h : History) (x : Session Ledger Ledger.Client (Except SessionError Ledger.Client) Ledger.Client),
      Outage Ledger.backend h x ∧ h.attempts.length = 1 ∧ x.state.status = .reconnectFailed ∧
        Course Ledger.backend h x := by
  have r := Reachable.new (b := Ledger.backend) { maxRetries := 1 } ({} : Ledger)
  have r := r.move (m := .connect 0 { host := "broker" } none) rfl
  have r := r.move (m := .call 0) trivial
  have r := r.move (m := .outside { pendingDrop := some .connectionClosed, failingDials := 1 }) trivial
  have o := Outage.lost r (m := .loop 0) (by decide) trivial (by decide) (by decide)
  have o := o.move (m := .loop 1000) (by decide) trivial (by decide)
  have o := o.move (m := .loop 1000) (by decide) trivial (by decide)
  have o := o.move (m := .loop 1000) (by decide) trivial (by decide)
  have o := o.move (m := .loop 1100) (by decide) trivial (by decide)
  have o := o.move (m := .loop 1100) (by decide) trivial (by decide)
  exact ⟨_, _, o, by decide, by decide, outage_course o⟩

end

end Session

end MqttLink
