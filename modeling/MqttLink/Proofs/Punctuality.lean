import MqttLink.Proofs.Outage
import MqttLink.Proofs.Timing

/-!
# Outages in time

The loop takes up an outage when it first decides on another attempt. From then on the ends of the attempts
make the times: the loop rests after each, decides, and waits for one delay. Main statement: this is kept by
every move and by the passing of time.
-/

namespace MqttLink

/-- Whoever asks for a time gets it. -/
def Backend.Punctual {ω κ δ φ : Type} (b : Backend ω κ δ φ) : Prop :=
  ∀ time w, (b.appoint time w).1.due = time

theorem Ledger.punctual : Ledger.backend.Punctual := fun _ _ => rfl

theorem Lines.punctual : Lines.backend.Punctual := fun _ _ => rfl

/-- When things happened in an outage, in their order. -/
structure Times where
  /-- The loop decided whether there is another attempt. -/
  decided : List Nat := []
  /-- A dial began. -/
  opened : List Nat := []
  /-- An attempt was over. -/
  ended : List Nat := []
  /-- The session was given up. -/
  gaveUp : Option Nat := none

namespace Session

variable {ω κ δ φ : Type}

/-- Whether the loop knows what follows a loss. -/
def hasDecided (x : Session ω κ δ φ) : Bool :=
  match x.phase? with
  | some (.backingOff ..) | some .ended => true
  | _ => false

/-- What is known once a session has moved at some time. -/
def timed (ts : Times) (now : Nat) (x y : Session ω κ δ φ) : Times where
  decided := ts.decided ++ if !x.hasDecided && y.hasDecided then [now] else []
  opened := ts.opened ++ if !x.isRedialing && y.isRedialing then [now] else []
  ended := ts.ended ++ (x.attempt? y).toList.map fun _ => now
  gaveUp :=
    if x.state.status ≠ .reconnectFailed ∧ y.state.status = .reconnectFailed then some now else ts.gaveUp

variable (b : Backend ω κ δ φ)

/-- An outage in which everybody acts at the present time, and time passes. -/
inductive TimedOutage : Times → Nat → History → Session ω κ δ φ → Prop
  | lost {now : Nat} {x : Session ω κ δ φ} {m : Move ω} (reachable : Reachable b x)
      (up : x.state.status = .connected) (allowed : m.Allowed x) (present : m.IsAt now)
      (down : (m.run b x).state.status ≠ .connected) (unasked : (m.run b x).isUnasked = true) :
      TimedOutage (timed {} now x (m.run b x)) now
        { loss := (m.error? b x).bind SessionError.fault? } (m.run b x)
  | move {ts : Times} {now : Nat} {h : History} {x : Session ω κ δ φ} {m : Move ω}
      (outage : TimedOutage ts now h x) (down : x.state.status ≠ .connected) (allowed : m.Allowed x)
      (present : m.IsAt now) (unasked : (m.run b x).isUnasked = true) :
      TimedOutage (timed ts now x (m.run b x)) now (noted h x (m.isTurn b x, m.run b x)) (m.run b x)
  | pass {ts : Times} {now later : Nat} {h : History} {x z : Session ω κ δ φ}
      (outage : TimedOutage ts now h x) (down : x.state.status ≠ .connected)
      (passes : Passes b now later x z) : TimedOutage ts later h z

/-! ## One turn of the loop -/

/-- Where the loop goes in an outage, and when. -/
inductive Stride (now : Nat) (x y : Session ω κ δ φ) : Prop
  | stay (phase : y.phase? = x.phase?) (status : y.state.status = x.state.status)
  | dialOn {dial dial' : δ} (was : x.phase? = some (.redialing dial))
      (phase : y.phase? = some (.redialing dial')) (status : y.state.status = x.state.status)
  | schedule {time : Appointment} {plan : ConnectPlan} {handler : Option Handler} {n : Nat}
      (was : x.phase? = some .cycling) (phase : y.phase? = some (.backingOff time plan handler))
      (retries : y.state.retries = n + 1)
      (due : time.due = Clock.after now (x.settings.backoff.delay n).toNat)
      (status : y.state.status = x.state.status ∨ y.state.status = .disconnected)
  | giveUp (was : x.phase? = some .cycling) (phase : y.phase? = some .ended)
      (status : y.state.status = .reconnectFailed)
  | rested {time : Appointment} (was : x.phase? = some (.resting time)) (due : time.due ≤ now)
      (phase : y.phase? = some .cycling) (status : y.state.status = x.state.status)
  | redial {time : Appointment} {plan : ConnectPlan} {handler : Option Handler} {dial : δ}
      (was : x.phase? = some (.backingOff time plan handler)) (due : time.due ≤ now)
      (phase : y.phase? = some (.redialing dial)) (status : y.state.status = .connecting)
  | dialed {dial : δ} {result : Except SessionError κ} (was : x.phase? = some (.redialing dial))
      (phase : y.phase? = some (.redialed result)) (status : y.state.status = x.state.status)
  | back {client : κ} (was : x.phase? = some (.redialed (.ok client)))
      (phase : y.phase? = some .cycling) (status : y.state.status = .connected)
  | failed {e : SessionError} {time : Appointment} (was : x.phase? = some (.redialed (.error e)))
      (phase : y.phase? = some (.resting time))
      (due : time.due = Clock.after now x.settings.syncInterval)
      (status : y.state.status = .disconnected)

section

variable {b} {ts : Times} {h : History} {x y z : Session ω κ δ φ} {now later : Nat}

theorem wait_phase?_due (punctual : b.Punctual) (now time : Nat) {p : Appointment → Phase κ δ}
    {q : Phase κ δ} (phase : x.phase? = some q) :
    ∃ appointment, appointment.due = Clock.after now time ∧
      (x.wait b now time p).phase? = some (p appointment) := by
  obtain ⟨awake, went⟩ := wait_loop b now time p x
  rw [phase?, Option.map_eq_some_iff] at phase
  obtain ⟨l, loop, -⟩ := phase
  exact ⟨_, punctual .., by rw [phase?, went, loop]; rfl⟩

theorem Deciding.status (d : Deciding b now x y) :
    y.state.status = x.state.status ∨ y.state.status = .disconnected := by
  cases d with
  | lost up failed => exact .inr (by rw [act_state, State.markLost_fst]; rfl)
  | down => exact .inl rfl

/-- Unless somebody tells the loop to stop, or the connection holds. -/
theorem LoopStep.stride {r : Bool × Session ω κ δ φ} (punctual : b.Punctual) (inv : Inv x)
    (s : LoopStep b now x r) (unasked : r.2.isUnasked = true)
    (down : x.state.status = .connected → r.2.state.status ≠ .connected) : Stride now x r.2 := by
  cases s with
  | stay => exact .stay rfl rfl
  | block => exact .stay (by simp [phase?, Function.comp_def]) rfl
  | stop running stopping alive => simp [isUnasked, endLoop_loop, running, stopping] at unasked
  | exchange loop free up went =>
    obtain ⟨client, client', w, messages, -, -, -, rfl⟩ := pump_ok went
    simp [exchanged, called, up] at down
  | @schedule awake y attempt delay plan loop free deciding decided planned =>
    obtain ⟨-, loop', -, settings, -⟩ := inv.deciding free loop deciding
    obtain ⟨-, -, rfl, rfl⟩ := decide_eq_proceed.1 decided
    have phase := phase?_of_loop (loop'.trans loop)
    obtain ⟨time, due, phase'⟩ := wait_phase?_due punctual now
      (y.settings.backoff.delay y.state.retries).toNat (p := (.backingOff · plan y.state.handler))
      (x := y.update fun s => { s with retries := y.state.retries + 1 }.notify b) phase
    rw [settings] at due
    refine .schedule (phase?_of_loop loop) phase' ?_ due ?_
    · simp
    · simpa using deciding.status
  | unplanned loop free deciding unplanned =>
    obtain ⟨inv', loop', -⟩ := inv.deciding free loop deciding
    simpa [unplanned] using (inv'.looping _ (loop'.trans loop)).2
  | giveUp loop free deciding decided =>
    obtain ⟨-, loop', -⟩ := inv.deciding free loop deciding
    exact .giveUp (phase?_of_loop loop) (setPhase_phase? (phase?_of_loop (loop'.trans loop))) rfl
  | rested loop due =>
    exact .rested (phase?_of_loop loop) due (setPhase_phase? (phase?_of_loop loop)) rfl
  | redial loop due free =>
    refine .redial (phase?_of_loop loop) due (setPhase_phase? (phase?_of_loop loop)) ?_
    simp [Session.redial, State.setStatus]
  | dialOn loop polled =>
    exact .dialOn (phase?_of_loop loop) (by simp [phase?, loop]; rfl) rfl
  | dialed loop polled =>
    exact .dialed (phase?_of_loop loop) (setPhase_phase? (phase?_of_loop loop)) rfl
  | @record awake result loop free =>
    have was := phase?_of_loop loop
    cases result with
    | ok client =>
      refine .back was (by simp [recordRedial, phase?, loop]) ?_
      simp [recordRedial, State.install, State.setStatus, State.restoreSubscriptions]
    | error e =>
      obtain ⟨time, due, phase⟩ := wait_phase?_due punctual now x.settings.syncInterval (p := .resting)
        (x := x.update fun s => (s.recordError b e).setStatus b .disconnected) was
      exact .failed was phase due (by simp [recordRedial, State.setStatus])

/-! ## Where the time stands -/

/-- What the place of the loop says about the time, after `n` attempts. -/
inductive Timely (ts : Times) (now : Nat) (x : Session ω κ δ φ) (n : Nat) : Prop
  | cycling (phase : x.phase? = some .cycling) (decided : ts.decided.length = n)
      (present : x.state.status ≠ .connected → ∀ k f, n = k + 1 → ts.ended[k]? = some f →
        now = Clock.after f x.settings.syncInterval)
  | resting {time : Appointment} (phase : x.phase? = some (.resting time))
      (decided : ts.decided.length = n)
      (due : ∀ k f, n = k + 1 → ts.ended[k]? = some f →
        time.due = Clock.after f x.settings.syncInterval ∧ now ≤ time.due)
  | waiting {time : Appointment} {plan : ConnectPlan} {handler : Option Handler} {d : Nat}
      (phase : x.phase? = some (.backingOff time plan handler)) (decided : ts.decided.length = n + 1)
      (since_ : ts.decided[n]? = some d)
      (due : time.due = Clock.after d (x.settings.backoff.delay n).toNat) (early : now ≤ time.due)
  | dialing {dial : δ} (phase : x.phase? = some (.redialing dial)) (decided : ts.decided.length = n + 1)
  | dialed {result : Except SessionError κ} (phase : x.phase? = some (.redialed result))
      (decided : ts.decided.length = n) (present : ∀ k f, n = k + 1 → ts.ended[k]? = some f → now = f)
  | past (phase : x.phase? = some .ended) (decided : ts.decided.length = n + 1)

/-- What every move and the passing of time keep during an outage. -/
structure Clocked (ts : Times) (now : Nat) (h : History) (x : Session ω κ δ φ) : Prop where
  opened_length : ts.opened.length = h.begun
  ended_length : ts.ended.length = h.attempts.length
  place : Timely ts now x h.attempts.length
  opened : ∀ k t, ts.opened[k]? = some t →
    ∃ d, ts.decided[k]? = some d ∧ t = Clock.after d (x.settings.backoff.delay k).toNat
  decided : ∀ k d, ts.decided[k + 1]? = some d →
    ∃ f, ts.ended[k]? = some f ∧ d = Clock.after f x.settings.syncInterval
  gaveUp : x.state.status = .reconnectFailed →
    x.phase? = some .ended ∧ ts.gaveUp = ts.decided[h.attempts.length]?

/-! ### A turn keeps it -/

theorem timed_of_phase?_eq (phase : y.phase? = x.phase?) (status : y.state.status = x.state.status) :
    timed ts now x y = ts := by
  have none_ : x.attempt? y = none := by
    rw [attempt?, phase]
    split <;> simp_all
  simp [timed, none_, hasDecided, isRedialing, phase, status]

/-- What is on record stays on record. -/
theorem getElem?_append_of_eq_some {α : Type} {l l' : List α} {k : Nat} {a : α} (is : l[k]? = some a) :
    (l ++ l')[k]? = some a := by
  obtain ⟨lt, -⟩ := List.getElem?_eq_some_iff.1 is
  rwa [List.getElem?_append_left lt]

theorem getElem?_snoc {α : Type} {l : List α} {k : Nat} {a c : α} (is : (l ++ [a])[k]? = some c) :
    l[k]? = some c ∨ k = l.length ∧ c = a := by
  rw [List.getElem?_append] at is
  split at is
  · exact .inl is
  · have last : k - l.length < [a].length := (List.getElem?_eq_some_iff.1 is).1
    have here : k - l.length = 0 := by simpa using last
    rw [here] at is
    exact .inr ⟨by omega, by simpa using is.symm⟩

theorem Clocked.not_failed (c : Clocked ts now h x) {p : Phase κ δ} (phase : x.phase? = some p)
    (alive : p ≠ .ended) : x.state.status ≠ .reconnectFailed := fun failed => by
  have past := (c.gaveUp failed).1
  rw [phase] at past
  exact alive (Option.some.inj past)

theorem Timely.of_cycling {n : Nat} (t : Timely ts now x n) (phase : x.phase? = some .cycling) :
    ts.decided.length = n ∧ (x.state.status ≠ .connected → ∀ k f, n = k + 1 → ts.ended[k]? = some f →
      now = Clock.after f x.settings.syncInterval) := by
  cases t with
  | cycling _ decided present => exact ⟨decided, present⟩
  | resting at_ | waiting at_ | dialing at_ | dialed at_ | past at_ =>
    rw [phase] at at_
    cases at_

/-- The first decision may come at any time, and every other one comes when the loop has rested. -/
theorem Clocked.decided_snoc (c : Clocked ts now h x) (phase : x.phase? = some .cycling)
    (fresh : x.state.status = .connected → h.attempts = []) (k d : Nat)
    (is : (ts.decided ++ [now])[k + 1]? = some d) :
    ∃ f, ts.ended[k]? = some f ∧ d = Clock.after f x.settings.syncInterval := by
  obtain ⟨length, present⟩ := c.place.of_cycling phase
  obtain old | ⟨last, rfl⟩ := getElem?_snoc is
  · exact c.decided k d old
  · have some_ : h.attempts.length = k + 1 := length.symm.trans last.symm
    have down : x.state.status ≠ .connected := fun up => by simp [fresh up] at some_
    have before : k < ts.ended.length := by rw [c.ended_length, some_]; exact Nat.lt_succ_self k
    have is := List.getElem?_eq_getElem before
    exact ⟨_, is, present down k _ some_ is⟩

theorem Clocked.stay {turns : Nat} (c : Clocked ts now h x) (phase : y.phase? = x.phase?)
    (status : y.state.status = x.state.status) (settings : y.settings = x.settings) :
    Clocked ts now { h with turns } y where
  opened_length := c.opened_length
  ended_length := c.ended_length
  place := by
    cases c.place with
    | cycling at_ decided present =>
      exact .cycling (phase.trans at_) decided (by rwa [status, settings])
    | resting at_ decided due => exact .resting (phase.trans at_) decided (by rwa [settings])
    | waiting at_ decided since_ due early =>
      exact .waiting (phase.trans at_) decided since_ (by rwa [settings]) early
    | dialing at_ decided => exact .dialing (phase.trans at_) decided
    | dialed at_ decided present => exact .dialed (phase.trans at_) decided present
    | past at_ decided => exact .past (phase.trans at_) decided
  opened := by rw [settings]; exact c.opened
  decided := by rw [settings]; exact c.decided
  gaveUp := by rw [status, phase]; exact c.gaveUp

/-- Elsewhere nothing is due for the record. -/
theorem Clocked.arrive {turns : Nat} (c : Clocked ts now h x) (settings : y.settings = x.settings)
    (going : y.state.status ≠ .reconnectFailed) (place : Timely ts now y h.attempts.length) :
    Clocked ts now { h with turns } y where
  opened_length := c.opened_length
  ended_length := c.ended_length
  place := place
  opened := by rw [settings]; exact c.opened
  decided := by rw [settings]; exact c.decided
  gaveUp failed := absurd failed going

variable {turn : Bool}

theorem Clocked.dialOn {dial dial' : δ} (c : Clocked ts now h x)
    (was : x.phase? = some (.redialing dial)) (phase : y.phase? = some (.redialing dial'))
    (status : y.state.status = x.state.status) (settings : y.settings = x.settings) :
    Clocked (timed ts now x y) now (noted h x (turn, y)) y := by
  have known : timed ts now x y = ts := by
    simp [timed, hasDecided, isRedialing, attempt?, was, phase, status]
  have known' : noted h x (turn, y) = { h with turns := h.turns + turn.toNat } := by
    simp [noted, isRedialing, attempt?, was, phase]
  rw [known, known']
  refine c.arrive settings (status ▸ c.not_failed was (by simp)) ?_
  cases c.place with
  | dialing at_ decided => exact .dialing phase decided
  | cycling at_ | resting at_ | waiting at_ | dialed at_ | past at_ =>
    rw [was] at at_
    cases at_

theorem Clocked.schedule {time : Appointment} {plan : ConnectPlan} {handler : Option Handler} {n : Nat}
    (c : Clocked ts now h x) (fresh : x.state.status = .connected → h.attempts = [])
    (was : x.phase? = some .cycling) (phase : y.phase? = some (.backingOff time plan handler))
    (next : n = h.attempts.length) (due : time.due = Clock.after now (x.settings.backoff.delay n).toNat)
    (status : y.state.status = x.state.status ∨ y.state.status = .disconnected)
    (settings : y.settings = x.settings) :
    Clocked (timed ts now x y) now (noted h x (turn, y)) y := by
  have going : y.state.status ≠ .reconnectFailed := by
    obtain same | lost := status
    · rw [same]
      exact c.not_failed was (by simp)
    · simp [lost]
  have known : timed ts now x y = { ts with decided := ts.decided ++ [now] } := by
    simp [timed, hasDecided, isRedialing, attempt?, was, phase, going]
  have known' : noted h x (turn, y) = { h with turns := h.turns + turn.toNat } := by
    simp [noted, isRedialing, attempt?, was, phase]
  have length := (c.place.of_cycling was).1
  rw [known, known']
  constructor
  case opened_length => exact c.opened_length
  case ended_length => exact c.ended_length
  case place =>
    refine .waiting phase (by simp [length]) (d := now) ?_ ?_ (due ▸ Clock.le_after ..)
    · simp [← length]
    · rw [settings, due, next]
  case opened =>
    intro k t is
    obtain ⟨d, decided, rfl⟩ := c.opened k t is
    exact ⟨d, getElem?_append_of_eq_some decided, by rw [settings]⟩
  case decided => rw [settings]; exact c.decided_snoc was fresh
  case gaveUp => exact fun failed => absurd failed going

theorem Clocked.giveUp (c : Clocked ts now h x) (fresh : x.state.status = .connected → h.attempts = [])
    (was : x.phase? = some .cycling) (phase : y.phase? = some .ended)
    (status : y.state.status = .reconnectFailed) (settings : y.settings = x.settings) :
    Clocked (timed ts now x y) now (noted h x (turn, y)) y := by
  have known : timed ts now x y = { ts with decided := ts.decided ++ [now], gaveUp := some now } := by
    simp [timed, hasDecided, isRedialing, attempt?, was, phase, status, c.not_failed was]
  have known' : noted h x (turn, y) = { h with turns := h.turns + turn.toNat } := by
    simp [noted, isRedialing, attempt?, was, phase]
  have length := (c.place.of_cycling was).1
  rw [known, known']
  constructor
  case opened_length => exact c.opened_length
  case ended_length => exact c.ended_length
  case place => exact .past phase (by simp [length])
  case opened =>
    intro k t is
    obtain ⟨d, decided, rfl⟩ := c.opened k t is
    exact ⟨d, getElem?_append_of_eq_some decided, by rw [settings]⟩
  case decided => rw [settings]; exact c.decided_snoc was fresh
  case gaveUp => exact fun _ => ⟨phase, by simp [← length]⟩

theorem Clocked.rested {time : Appointment} (c : Clocked ts now h x)
    (was : x.phase? = some (.resting time)) (due : time.due ≤ now) (phase : y.phase? = some .cycling)
    (status : y.state.status = x.state.status) (settings : y.settings = x.settings) :
    Clocked (timed ts now x y) now (noted h x (turn, y)) y := by
  have known : timed ts now x y = ts := by
    simp [timed, hasDecided, isRedialing, attempt?, was, phase, status]
  have known' : noted h x (turn, y) = { h with turns := h.turns + turn.toNat } := by
    simp [noted, isRedialing, attempt?, was, phase]
  rw [known, known']
  refine c.arrive settings (status ▸ c.not_failed was (by simp)) ?_
  cases c.place with
  | resting at_ decided due' =>
    rw [was] at at_
    cases at_
    refine .cycling phase decided fun _ k f last is => ?_
    obtain ⟨exact_, early⟩ := due' k f last is
    rw [settings, ← exact_]
    -- Time has not passed the appointment, and the loop has not gone on before it.
    exact Nat.le_antisymm early due
  | cycling at_ | waiting at_ | dialing at_ | dialed at_ | past at_ =>
    rw [was] at at_
    cases at_

theorem Clocked.redial {time : Appointment} {plan : ConnectPlan} {handler : Option Handler} {dial : δ}
    (c : Clocked ts now h x) (begun : h.begun = h.attempts.length)
    (was : x.phase? = some (.backingOff time plan handler)) (due : time.due ≤ now)
    (phase : y.phase? = some (.redialing dial)) (status : y.state.status = .connecting)
    (settings : y.settings = x.settings) :
    Clocked (timed ts now x y) now (noted h x (turn, y)) y := by
  have known : timed ts now x y = { ts with opened := ts.opened ++ [now] } := by
    simp [timed, hasDecided, isRedialing, attempt?, was, phase, status]
  have known' : noted h x (turn, y) = { h with begun := h.begun + 1, turns := h.turns + turn.toNat } := by
    simp [noted, isRedialing, attempt?, was, phase]
  rw [known, known']
  cases c.place with
  | waiting at_ decided since_ exact_ early =>
    rw [was] at at_
    cases at_
    constructor
    case opened_length => simp [c.opened_length]
    case ended_length => exact c.ended_length
    case place => exact .dialing phase decided
    case opened =>
      intro k t is
      rw [settings]
      obtain old | ⟨last, rfl⟩ := getElem?_snoc is
      · exact c.opened k t old
      · rw [c.opened_length, begun] at last
        rw [last]
        exact ⟨_, since_, exact_ ▸ Nat.le_antisymm early due⟩
    case decided => rw [settings]; exact c.decided
    case gaveUp => exact fun failed => by simp [status] at failed
  | cycling at_ | resting at_ | dialing at_ | dialed at_ | past at_ =>
    rw [was] at at_
    cases at_

theorem Clocked.dialed {dial : δ} {result : Except SessionError κ} (c : Clocked ts now h x)
    (was : x.phase? = some (.redialing dial)) (phase : y.phase? = some (.redialed result))
    (status : y.state.status = x.state.status) (settings : y.settings = x.settings) :
    Clocked (timed ts now x y) now (noted h x (turn, y)) y := by
  have known : timed ts now x y = { ts with ended := ts.ended ++ [now] } := by
    simp [timed, hasDecided, isRedialing, attempt?, was, phase, status]
  have known' : noted h x (turn, y) =
      { h with attempts := h.attempts ++ [.of result], turns := h.turns + turn.toNat } := by
    simp [noted, isRedialing, attempt?, was, phase]
  rw [known, known']
  constructor
  case opened_length => exact c.opened_length
  case ended_length => simp [c.ended_length]
  case place =>
    cases c.place with
    | dialing at_ decided =>
      refine .dialed phase (by simp [decided]) fun k f last is => ?_
      obtain rfl : h.attempts.length = k := by simpa using last
      rw [← c.ended_length] at is
      simpa using is
    | cycling at_ | resting at_ | waiting at_ | dialed at_ | past at_ =>
      rw [was] at at_
      cases at_
  case opened => rw [settings]; exact c.opened
  case decided =>
    intro k d is
    obtain ⟨f, ended, rfl⟩ := c.decided k d is
    exact ⟨f, getElem?_append_of_eq_some ended, by rw [settings]⟩
  case gaveUp => exact fun failed => absurd (status ▸ failed) (c.not_failed was (by simp))

theorem Timely.of_redialed {n : Nat} {result : Except SessionError κ} (t : Timely ts now x n)
    (phase : x.phase? = some (.redialed result)) :
    ts.decided.length = n ∧ ∀ k f, n = k + 1 → ts.ended[k]? = some f → now = f := by
  cases t with
  | dialed _ decided present => exact ⟨decided, present⟩
  | cycling at_ | resting at_ | waiting at_ | dialing at_ | past at_ =>
    rw [phase] at at_
    cases at_

theorem Clocked.back {client : κ} (c : Clocked ts now h x)
    (was : x.phase? = some (.redialed (.ok client))) (phase : y.phase? = some .cycling)
    (status : y.state.status = .connected) (settings : y.settings = x.settings) :
    Clocked (timed ts now x y) now (noted h x (turn, y)) y := by
  have known : timed ts now x y = ts := by
    simp [timed, hasDecided, isRedialing, attempt?, was, phase, status]
  have known' : noted h x (turn, y) = { h with turns := h.turns + turn.toNat } := by
    simp [noted, isRedialing, attempt?, was, phase]
  rw [known, known']
  refine c.arrive settings (by simp [status]) ?_
  exact .cycling phase (c.place.of_redialed was).1 fun down => absurd status down

theorem Clocked.failed {e : SessionError} {time : Appointment} (c : Clocked ts now h x)
    (was : x.phase? = some (.redialed (.error e))) (phase : y.phase? = some (.resting time))
    (due : time.due = Clock.after now x.settings.syncInterval)
    (status : y.state.status = .disconnected) (settings : y.settings = x.settings) :
    Clocked (timed ts now x y) now (noted h x (turn, y)) y := by
  have known : timed ts now x y = ts := by
    simp [timed, hasDecided, isRedialing, attempt?, was, phase, status]
  have known' : noted h x (turn, y) = { h with turns := h.turns + turn.toNat } := by
    simp [noted, isRedialing, attempt?, was, phase]
  obtain ⟨length, present⟩ := c.place.of_redialed was
  rw [known, known']
  refine c.arrive settings (by simp [status]) (.resting phase length fun k f last is => ?_)
  obtain rfl := present k f last is
  rw [settings]
  exact ⟨due, due ▸ Clock.le_after ..⟩

theorem Along.retries_of_waiting (a : Along h x) {time : Appointment} {plan : ConnectPlan}
    {handler : Option Handler} (phase : x.phase? = some (.backingOff time plan handler)) :
    x.state.retries = h.attempts.length + 1 := by
  cases a.stands with
  | waiting _ _ retries => exact retries
  | deciding at_ => simp [phase] at at_
  | back at_ | dialing at_ | dialed at_ | past at_ =>
    rw [phase] at at_
    cases at_

theorem Along.begun_of_dialing (a : Along h x) {dial : δ} (phase : x.phase? = some (.redialing dial)) :
    h.begun = h.attempts.length + 1 ∧ x.state.retries = h.attempts.length + 1 := by
  cases a.stands with
  | dialing _ begun retries => exact ⟨begun, retries⟩
  | deciding at_ => simp [phase] at at_
  | back at_ | waiting at_ | dialed at_ | past at_ =>
    rw [phase] at at_
    cases at_

theorem Clocked.stride (c : Clocked ts now h x) (fresh : x.state.status = .connected → h.attempts = [])
    (a : Along (noted h x (turn, y)) y) (settings : y.settings = x.settings) (s : Stride now x y) :
    Clocked (timed ts now x y) now (noted h x (turn, y)) y := by
  cases s with
  | stay phase status =>
    rw [timed_of_phase?_eq phase status, noted_of_phase?_eq phase]
    exact c.stay phase status settings
  | dialOn was phase status => exact c.dialOn was phase status settings
  | schedule was phase retries due status =>
    have known : (noted h x (turn, y)).attempts = h.attempts := by simp [noted, attempt?, was]
    have retries' := a.retries_of_waiting phase
    rw [known] at retries'
    exact c.schedule fresh was phase (Nat.succ.inj (retries.symm.trans retries')) due status settings
  | giveUp was phase status => exact c.giveUp fresh was phase status settings
  | rested was due phase status => exact c.rested was due phase status settings
  | redial was due phase status =>
    have known : (noted h x (turn, y)).attempts = h.attempts := by simp [noted, attempt?, was]
    have known' : (noted h x (turn, y)).begun = h.begun + 1 := by simp [noted, isRedialing, was, phase]
    have begun := (a.begun_of_dialing phase).1
    rw [known, known'] at begun
    exact c.redial (Nat.succ.inj begun) was due phase status settings
  | dialed was phase status => exact c.dialed was phase status settings
  | back was phase status => exact c.back was phase status settings
  | failed was phase due status => exact c.failed was phase due status settings

/-! ### Time passes -/

theorem Passes.loopStep (passes : Passes b now later x z) (still : x.call.isOver = true) :
    x.stepLoop b now = (false, z) ∧ LoopStep b now x (false, z) ∧
      ∀ time, z.appointment? b = some time → later ≤ max (now + 1) time.due := by
  obtain ⟨-, call, loop, -, wake⟩ := passes
  rw [stepCall_of_isOver still] at call
  cases call
  exact ⟨loop, loop ▸ Session.loopStep b now x, wake⟩

/-- A loop that does not go on stands where it stood. -/
theorem LoopStep.still (s : LoopStep b now x (false, z)) :
    z.state = x.state ∧ z.settings = x.settings ∧ z.isUnasked = x.isUnasked ∧
      (z.phase? = x.phase? ∨
        ∃ dial dial', x.phase? = some (.redialing dial) ∧ z.phase? = some (.redialing dial')) := by
  cases s with
  | stay => exact ⟨rfl, rfl, rfl, .inl rfl⟩
  | block =>
    exact ⟨rfl, rfl, by simp [isUnasked, Option.any_map], .inl (by simp [phase?, Function.comp_def])⟩
  | dialOn loop polled =>
    exact ⟨rfl, rfl, by simp [isUnasked, loop],
      .inr ⟨_, _, phase?_of_loop loop, by simp [phase?, loop]; rfl⟩⟩

theorem noted_of_still (s : LoopStep b now x (false, z)) : noted h x (false, z) = h := by
  obtain phase | ⟨dial, dial', was, phase⟩ := s.still.2.2.2
  · exact noted_of_phase?_eq phase
  · simp [noted, attempt?, isRedialing, was, phase]

/-- Time passes in an outage as in one move of the loop that does not go on. -/
theorem Outage.pass (o : Outage b h x) (down : x.state.status ≠ .connected)
    (passes : Passes b now later x z) : Outage b h z := by
  have inv := o.along.inv
  obtain ⟨loop, s, -⟩ := passes.loopStep (inv.isOver o.along.unasked)
  have unasked : ((Move.loop now).run b x).isUnasked = true := by
    rw [show (Move.loop now).run b x = z from congrArg Prod.snd loop, s.still.2.2.1]
    exact o.along.unasked
  have moved := o.move (m := .loop now) down trivial unasked
  rw [show (Move.loop now).run b x = z from congrArg Prod.snd loop,
    show (Move.loop now).isTurn b x = false from congrArg Prod.fst loop, noted_of_still s] at moved
  exact moved

/-- Time passes only where the loop waits, and no further than to what it waits for. -/
theorem Clocked.pass (c : Clocked ts now h x) (a : Along h x) (passes : Passes b now later x z) :
    Clocked ts later h z := by
  obtain ⟨loop, s, wake⟩ := passes.loopStep (a.inv.isOver a.unasked)
  obtain ⟨state, settings, -, phase⟩ := s.still
  have stays : ∀ {p}, x.phase? = some p → (∀ dial, p ≠ .redialing dial) → z.phase? = some p := by
    intro p was other
    obtain same | ⟨dial, -, was', -⟩ := phase
    · rw [same, was]
    · rw [was] at was'
      exact absurd (Option.some.inj was') (other dial)
  have waits : x.phase? ≠ some .ended → ¬ x.mayGoOn b now := fun alive may => by
    have goes := a.goes alive now may
    rw [loop] at goes
    cases goes
  have until_ : ∀ {time : Appointment}, ¬ time.due ≤ now → z.appointment? b = some time →
      later ≤ time.due := fun late is => (wake _ is).trans (max_le (by omega) (Nat.le_refl _))
  constructor
  case opened_length => exact c.opened_length
  case ended_length => exact c.ended_length
  case place =>
    cases c.place with
    | cycling at_ => exact absurd (by simp [mayGoOn, at_]) (waits (by simp [at_]))
    | dialed at_ => exact absurd (by simp [mayGoOn, at_]) (waits (by simp [at_]))
    | @resting time at_ decided due =>
      have at_' := stays at_ (by simp)
      have late : ¬ time.due ≤ now := by simpa [mayGoOn, at_] using waits (by simp [at_])
      refine .resting at_' decided fun k f last is => ?_
      rw [settings]
      refine ⟨(due k f last is).1, until_ late ?_⟩
      rw [appointment?, ← phase?, at_']
    | @waiting time plan handler d at_ decided since_ due early =>
      have at_' := stays at_ (by simp)
      have late : ¬ time.due ≤ now := by simpa [mayGoOn, at_] using waits (by simp [at_])
      refine .waiting at_' decided since_ (by rwa [settings]) (until_ late ?_)
      rw [appointment?, ← phase?, at_']
    | dialing at_ decided =>
      obtain same | ⟨dial, dial', -, at_'⟩ := phase
      · exact .dialing (same.trans at_) decided
      · exact .dialing at_' decided
    | past at_ decided => exact .past (stays at_ (by simp)) decided
  case opened => rw [settings]; exact c.opened
  case decided => rw [settings]; exact c.decided
  case gaveUp =>
    intro failed
    rw [state] at failed
    obtain ⟨at_, gaveUp⟩ := c.gaveUp failed
    exact ⟨stays at_ (by simp), gaveUp⟩

/-! ### It begins with the loss -/

/-- Before the loss there is nothing to say. -/
theorem Clocked.start {loss : Option Fault} (up : x.state.status = .connected)
    (phase : x.phase? = some .cycling ∨ ∃ time, x.phase? = some (.resting time)) :
    Clocked {} now { loss } x where
  opened_length := rfl
  ended_length := rfl
  place := by
    obtain phase | ⟨time, phase⟩ := phase
    · exact .cycling phase rfl fun down => absurd up down
    · exact .resting phase rfl fun k f last => by simp at last
  opened k t is := by simp at is
  decided k d is := by simp at is
  gaveUp failed := by simp [up] at failed

theorem LoopStep.unasked {r : Bool × Session ω κ δ φ} (s : LoopStep b now x r)
    (unasked : r.2.isUnasked = true) : x.isUnasked = true := by
  cases s with
  | stay => exact unasked
  | block => simpa [isUnasked, Option.any_map, Function.comp_def] using unasked
  | stop running stopping alive => simp [isUnasked, endLoop_loop, running, stopping] at unasked
  | exchange loop | schedule loop | unplanned loop | giveUp loop | rested loop | redial loop | dialOn loop
  | dialed loop | record loop => simp [isUnasked, loop]

/-- An operation that breaks a connection leaves the loop where it is. -/
theorem operate_lost {op : Operation} (up : x.state.status = .connected)
    (down : (x.operate b op).2.state.status ≠ .connected) :
    (x.operate b op).2.loop = x.loop ∧ (x.operate b op).2.state.status = .disconnected := by
  have s := Session.operateStep b op x
  generalize x.operate b op = r at s down ⊢
  cases s with
  | refuse | succeed | fail => exact absurd up down
  | «break» _ held ran broken => exact ⟨rfl, by rw [act_state, State.markLost_fst]; rfl⟩

theorem Clocked.lost {m : Move ω} (punctual : b.Punctual) (inv : Inv x)
    (up : x.state.status = .connected) (allowed : m.Allowed x) (present : m.IsAt now)
    (down : (m.run b x).state.status ≠ .connected) (unasked : (m.run b x).isUnasked = true) :
    Clocked (timed {} now x (m.run b x)) now { loss := (m.error? b x).bind SessionError.fault? }
      (m.run b x) := by
  by_cases turn : ∃ t, m = .loop t
  · obtain ⟨t, rfl⟩ := turn
    obtain rfl : t = now := present
    have a := Along.lost inv up allowed down unasked
    have s := Session.loopStep b t x
    have home := inv.phase_of_up up (s.unasked unasked)
    have here : x.isRedialing = false := by
      obtain phase | ⟨time, phase⟩ := home <;> simp [isRedialing, phase]
    have there : ((Move.loop t).run b x).isRedialing = false := by
      cases a.stands with
      | dialing _ begun => cases begun
      | deciding phase => obtain phase | ⟨time, phase⟩ := phase <;> simp [isRedialing, phase]
      | back phase | waiting phase | dialed phase | past phase => simp [isRedialing, phase]
    have known : noted { loss := ((Move.loop t).error? b x).bind SessionError.fault? } x
        (false, (Move.loop t).run b x) = { loss := ((Move.loop t).error? b x).bind SessionError.fault? } :=
      noted_of_not_redialing here there
    rw [← known] at a ⊢
    exact (Clocked.start up home).stride (fun _ => rfl) a (Move.run_settings ..)
      (s.stride punctual inv unasked fun _ => down)
  · obtain ⟨op, rfl⟩ := operates_of_lost inv up down unasked fun t e => turn ⟨t, e⟩
    obtain ⟨loop, status⟩ : ((Move.operate op).run b x).loop = x.loop ∧
        ((Move.operate op).run b x).state.status = .disconnected := operate_lost up down
    have phase : ((Move.operate op).run b x).phase? = x.phase? := congrArg (Option.map Loop.phase) loop
    have home := inv.phase_of_up up (by rwa [isUnasked, loop] at unasked)
    have known : timed {} now x ((Move.operate op).run b x) = {} := by
      obtain at_ | ⟨time, at_⟩ := home <;>
        simp [timed, hasDecided, isRedialing, attempt?, phase, at_, status]
    rw [known]
    refine (Clocked.start up home).arrive (Move.run_settings ..) (by simp [status]) ?_
    obtain at_ | ⟨time, at_⟩ := home
    · exact .cycling (phase.trans at_) rfl fun _ k f last => by simp at last
    · exact .resting (phase.trans at_) rfl fun k f last => by simp at last

theorem TimedOutage.outage (o : TimedOutage b ts now h x) : Outage b h x := by
  induction o with
  | lost reachable up allowed _ down unasked => exact .lost reachable up allowed down unasked
  | move _ down allowed _ unasked ih => exact ih.move down allowed unasked
  | pass _ down passes ih => exact ih.pass down passes

theorem TimedOutage.clocked (o : TimedOutage b ts now h x) (punctual : b.Punctual) :
    Clocked ts now h x := by
  induction o with
  | lost reachable up allowed present down unasked =>
    exact .lost punctual reachable.inv up allowed present down unasked
  | @move ts now h x m outage down allowed present unasked ih =>
    have a := outage.outage.along
    by_cases turn : ∃ t, m = .loop t
    · obtain ⟨t, rfl⟩ := turn
      obtain rfl : t = now := present
      exact ih.stride (fun up => absurd up down) (a.move down allowed unasked) (Move.run_settings ..)
        ((Session.loopStep b t x).stride punctual a.inv unasked fun up => absurd up down)
    · obtain ⟨state, phase, turn⟩ := elsewhere a.inv a.unasked down unasked fun t e => turn ⟨t, e⟩
      rw [timed_of_phase?_eq phase (by rw [state]), noted_of_phase?_eq phase]
      exact ih.stay phase (by rw [state]) (Move.run_settings ..)
  | pass outage _ passes ih => exact ih.pass outage.outage.along passes

end

end Session

end MqttLink
