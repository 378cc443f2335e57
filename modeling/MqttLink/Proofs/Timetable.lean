import MqttLink.Proofs.Delays
import MqttLink.Proofs.Punctuality

/-!
# The timetable of an outage

Main statement: every dial of an outage begins when it should, and where every attempt fails in no time the
session is given up after all delays and rests.
-/

namespace MqttLink

/-- When decision number `n` comes after the one at `start` if every attempt fails in no time. -/
def Settings.decision (s : Settings) (start n : Nat) : Nat :=
  start + ∑ k ∈ Finset.range n, (s.backoff.delay k).toNat + n * s.syncInterval

/-- When a session is given up if every attempt fails in no time. -/
def Settings.givenUp (s : Settings) (start : Nat) : Nat :=
  start + (s.backoff.total s.maxRetries).toNat + s.maxRetries.toNat * s.syncInterval

namespace Settings

variable {s : Settings} {start : Nat}

theorem decision_succ (n : Nat) :
    s.decision start (n + 1) = s.decision start n + (s.backoff.delay n).toNat + s.syncInterval := by
  rw [decision, decision, Finset.sum_range_succ, Nat.succ_mul]
  omega

theorem decision_mono {m n : Nat} (le : m ≤ n) : s.decision start m ≤ s.decision start n :=
  monotone_nat_of_le_succ (fun n => by rw [decision_succ]; omega) le

/-- A sum that the clock can tell is exact. -/
theorem decision_maxRetries (told : s.givenUp start < Clock.horizon) :
    s.decision start s.maxRetries.toNat = s.givenUp start := by
  have horizon : Clock.horizon = 18446744073709 := rfl
  rw [givenUp, Backoff.toNat_total] at told ⊢
  rw [decision]
  omega

end Settings

/-- Every attempt is over as soon as it has begun. -/
def Times.Instant (ts : Times) (now : Nat) : Prop :=
  ∀ k t : Nat, ts.opened[k]? = some t → ts.ended[k]?.getD now = t

/-- A failure that may heal. -/
def Ending.Retriable (s : Settings) (o : Ending) : Prop :=
  ∃ fault, o = .failure fault ∧ fault.all (·.retriable s.retryUnknown) = true

theorem Ending.Retriable.closes {s : Settings} {o : Ending} (r : o.Retriable s) {n : Nat}
    (closes : s.closes n o = true) : n = s.maxRetries.toNat := by
  obtain ⟨fault, rfl, heals⟩ := r
  simpa [Settings.closes, heals] using closes

namespace Session

variable {ω κ δ φ : Type}

/-- What the clock says about an outage. -/
structure Timetable (b : Backend ω κ δ φ) (ts : Times) (now : Nat) (h : History)
    (x : Session ω κ δ φ) : Prop where
  /-- The first dial begins one delay after the loop has taken up the outage. -/
  first : ∀ t, ts.opened[0]? = some t →
    ∃ start, ts.decided[0]? = some start ∧ t = Clock.after start (x.settings.backoff.delay 0).toNat
  /-- Every other dial begins one rest and one delay after the attempt before it is over. -/
  next : ∀ k t, ts.opened[k + 1]? = some t → ∃ f, ts.ended[k]? = some f ∧
    t = Clock.after (Clock.after f x.settings.syncInterval) (x.settings.backoff.delay (k + 1)).toNat
  /-- Where there is another attempt, its dial is not late. -/
  firstDue : ∀ start, ts.decided[0]? = some start → ¬ h.Closed x.settings 0 →
    Clock.after start (x.settings.backoff.delay 0).toNat < now → 0 < ts.opened.length
  nextDue : ∀ k f, ts.ended[k]? = some f → ¬ h.Closed x.settings (k + 1) →
    Clock.after (Clock.after f x.settings.syncInterval) (x.settings.backoff.delay (k + 1)).toNat < now →
      k + 1 < ts.opened.length
  /-- Time never stands still, unless the loop can go on. -/
  goes : (x.stepLoop b now).1 = true ∨ ∃ z, Passes b now (now + 1) x z
  /-- If every attempt fails in no time, the session is given up just when it should be. -/
  givenUp : ∀ start, ts.decided[0]? = some start → (∀ o ∈ h.outcomes, o.Retriable x.settings) →
    ts.Instant now → x.settings.givenUp start < Clock.horizon →
      if x.state.status = .reconnectFailed then ts.gaveUp = some (x.settings.givenUp start)
      else now ≤ x.settings.givenUp start

variable {b : Backend ω κ δ φ} {ts : Times} {h : History} {x : Session ω κ δ φ} {now : Nat}

/-! ## No dial is late -/

theorem Along.begun_ge (a : Along h x) : h.attempts.length ≤ h.begun := by
  cases a.stands with
  | back _ _ begun | deciding _ _ begun | waiting _ begun | dialed _ begun | past _ _ begun =>
    exact begun.ge
  | dialing _ begun => exact begun ▸ Nat.le_succ _

theorem Along.closed (a : Along h x) (past : x.state.status = .connected ∨ x.phase? = some .ended) :
    h.Closed x.settings h.attempts.length := by
  obtain ⟨-, o, last, closes, -⟩ := a.settled past
  exact ⟨o, last, closes⟩

theorem Clocked.first_due (c : Clocked ts now h x) (a : Along h x) {start : Nat}
    (first : ts.decided[0]? = some start) (open_ : ¬ h.Closed x.settings 0)
    (late : Clock.after start (x.settings.backoff.delay 0).toNat < now) : 0 < ts.opened.length := by
  by_contra none_
  have begun : h.begun = 0 := c.opened_length ▸ Nat.eq_zero_of_not_pos none_
  have zero : h.attempts.length = 0 := Nat.le_zero.1 (begun ▸ a.begun_ge)
  have decides : 0 < ts.decided.length := (List.getElem?_eq_some_iff.1 first).1
  cases c.place with
  | cycling _ decided | resting _ decided | dialed _ decided => omega
  | waiting _ _ since_ due early =>
    rw [zero, first] at since_
    obtain rfl := Option.some.inj since_
    rw [zero] at due
    omega
  | dialing phase => rw [(a.begun_of_dialing phase).1] at begun; cases begun
  | past phase => exact open_ (zero ▸ a.closed (.inr phase))

theorem Clocked.next_due (c : Clocked ts now h x) (a : Along h x) {k f : Nat}
    (ended : ts.ended[k]? = some f) (open_ : ¬ h.Closed x.settings (k + 1))
    (late : Clock.after (Clock.after f x.settings.syncInterval)
      (x.settings.backoff.delay (k + 1)).toNat < now) : k + 1 < ts.opened.length := by
  by_contra none_
  have some_ : k < ts.ended.length := (List.getElem?_eq_some_iff.1 ended).1
  have ge := a.begun_ge
  have opened := c.opened_length
  have last : h.attempts.length = k + 1 := by have := c.ended_length; omega
  have rest := Clock.le_after f x.settings.syncInterval
  have delay := Clock.le_after (Clock.after f x.settings.syncInterval)
    (x.settings.backoff.delay (k + 1)).toNat
  cases c.place with
  | cycling _ _ present =>
    by_cases up : x.state.status = .connected
    · exact open_ (last ▸ a.closed (.inl up))
    · have := present up k f last ended
      omega
  | resting _ _ due =>
    obtain ⟨due, early⟩ := due k f last ended
    omega
  | waiting _ _ since_ due early =>
    rw [last] at since_ due
    obtain ⟨f', ended', rfl⟩ := c.decided k _ since_
    obtain rfl := Option.some.inj (ended.symm.trans ended')
    omega
  | dialing phase => have := (a.begun_of_dialing phase).1; omega
  | dialed _ _ present =>
    have := present k f last ended
    omega
  | past phase => exact open_ (last ▸ a.closed (.inr phase))

/-! ## Attempts that fail in no time -/

variable {start : Nat}

theorem decision_le_givenUp (told : x.settings.givenUp start < Clock.horizon) {k : Nat}
    (le : k ≤ x.settings.maxRetries.toNat) : x.settings.decision start k ≤ x.settings.givenUp start :=
  Settings.decision_maxRetries told ▸ Settings.decision_mono le

theorem dial_le_givenUp (told : x.settings.givenUp start < Clock.horizon) {k : Nat}
    (lt : k < x.settings.maxRetries.toNat) :
    x.settings.decision start k + (x.settings.backoff.delay k).toNat + x.settings.syncInterval ≤
      x.settings.givenUp start :=
  Settings.decision_succ k ▸ decision_le_givenUp told (Nat.succ_le_of_lt lt)

theorem Clocked.at_dial (c : Clocked ts now h x) (told : x.settings.givenUp start < Clock.horizon)
    {k t : Nat} (lt : k < x.settings.maxRetries.toNat)
    (decision : ∀ d, ts.decided[k]? = some d → d = x.settings.decision start k)
    (opened : ts.opened[k]? = some t) :
    t = x.settings.decision start k + (x.settings.backoff.delay k).toNat := by
  obtain ⟨d, decided, rfl⟩ := c.opened k t opened
  have le := dial_le_givenUp told lt
  rw [decision d decided, Clock.after_eq (by omega)]

theorem Clocked.at_rest (c : Clocked ts now h x) (a : Along h x) (instant : ts.Instant now)
    (told : x.settings.givenUp start < Clock.horizon) {k f : Nat}
    (lt : k < x.settings.maxRetries.toNat)
    (decision : ∀ d, ts.decided[k]? = some d → d = x.settings.decision start k)
    (ended : ts.ended[k]? = some f) :
    Clock.after f x.settings.syncInterval = x.settings.decision start (k + 1) := by
  have some_ : k < ts.opened.length := by
    have := (List.getElem?_eq_some_iff.1 ended).1
    have := a.begun_ge
    rw [← c.ended_length, ← c.opened_length] at this
    omega
  have opened := List.getElem?_eq_getElem some_
  have same := instant k _ opened
  rw [ended, Option.getD_some, c.at_dial told lt decision opened] at same
  have le := dial_le_givenUp told lt
  rw [same, Settings.decision_succ, Clock.after_eq (by omega)]

theorem Clocked.at_decision (c : Clocked ts now h x) (a : Along h x) (instant : ts.Instant now)
    (told : x.settings.givenUp start < Clock.horizon) (first : ts.decided[0]? = some start) {k : Nat}
    (le : k ≤ x.settings.maxRetries.toNat) (d : Nat) (decided : ts.decided[k]? = some d) :
    d = x.settings.decision start k := by
  induction k generalizing d with
  | zero =>
    rw [first] at decided
    simp [Settings.decision, Option.some.inj decided]
  | succ k ih =>
    obtain ⟨f, ended, rfl⟩ := c.decided k d decided
    exact c.at_rest a instant told le (ih (Nat.le_of_succ_le le)) ended

theorem Along.not_up (a : Along h x) (retriable : ∀ o ∈ h.outcomes, o.Retriable x.settings) :
    x.state.status ≠ .connected := fun up => by
  obtain ⟨-, o, last, -, is⟩ := a.settled (.inl up)
  obtain ⟨fault, rfl, -⟩ := retriable o (List.mem_of_getElem? last)
  simp [up] at is

theorem Along.length_le (a : Along h x) (down : x.state.status ≠ .connected) :
    h.attempts.length ≤ x.settings.maxRetries.toNat := by
  have le := a.inv.retries_le
  cases a.stands with
  | back _ up => exact absurd up down
  | deciding _ _ _ retries | dialed _ _ retries | past _ _ _ retries => exact retries ▸ le
  | waiting _ _ retries | dialing _ _ retries => omega

theorem Clocked.given_up (c : Clocked ts now h x) (a : Along h x) (instant : ts.Instant now)
    (told : x.settings.givenUp start < Clock.horizon) (first : ts.decided[0]? = some start)
    (retriable : ∀ o ∈ h.outcomes, o.Retriable x.settings) (failed : x.state.status = .reconnectFailed) :
    ts.gaveUp = some (x.settings.givenUp start) := by
  obtain ⟨phase, gaveUp⟩ := c.gaveUp failed
  obtain ⟨o, last, closes⟩ := a.closed (.inr phase)
  have all := (retriable o (List.mem_of_getElem? last)).closes closes
  cases c.place with
  | past _ decided =>
    have some_ : h.attempts.length < ts.decided.length := by omega
    have is := List.getElem?_eq_getElem some_
    rw [gaveUp, is, c.at_decision a instant told first all.le _ is, all,
      Settings.decision_maxRetries told]
  | cycling at_ | resting at_ | waiting at_ | dialing at_ | dialed at_ =>
    rw [phase] at at_
    cases at_

theorem Clocked.not_late (c : Clocked ts now h x) (a : Along h x) (instant : ts.Instant now)
    (told : x.settings.givenUp start < Clock.horizon) (first : ts.decided[0]? = some start)
    (retriable : ∀ o ∈ h.outcomes, o.Retriable x.settings) (going : x.state.status ≠ .reconnectFailed) :
    now ≤ x.settings.givenUp start := by
  have down := a.not_up retriable
  have length := a.length_le down
  have decides : 0 < ts.decided.length := (List.getElem?_eq_some_iff.1 first).1
  -- After the rest that follows the last attempt comes the next decision.
  have rest : ts.decided.length = h.attempts.length → ∃ k f, h.attempts.length = k + 1 ∧
      ts.ended[k]? = some f ∧ Clock.after f x.settings.syncInterval ≤ x.settings.givenUp start := by
    intro decided
    obtain ⟨k, last⟩ := Nat.exists_eq_succ_of_ne_zero (n := h.attempts.length) (by omega)
    have some_ : k < ts.ended.length := by rw [c.ended_length, last]; exact Nat.lt_succ_self k
    have ended := List.getElem?_eq_getElem some_
    refine ⟨k, _, last, ended, ?_⟩
    rw [c.at_rest a instant told (by omega) (c.at_decision a instant told first (by omega)) ended]
    exact decision_le_givenUp told (by omega)
  cases c.place with
  | cycling _ decided present =>
    obtain ⟨k, f, last, ended, le⟩ := rest decided
    exact present down k f last ended ▸ le
  | resting _ decided due =>
    obtain ⟨k, f, last, ended, le⟩ := rest decided
    obtain ⟨due, early⟩ := due k f last ended
    omega
  | waiting phase _ since_ due early =>
    have lt : h.attempts.length < x.settings.maxRetries.toNat :=
      (a.retries_of_waiting phase).symm.trans_le a.inv.retries_le
    have le := dial_le_givenUp told lt
    rw [c.at_decision a instant told first length _ since_, Clock.after_eq (by omega)] at due
    omega
  | dialing phase decided =>
    obtain ⟨begun, retries⟩ := a.begun_of_dialing phase
    have lt : h.attempts.length < x.settings.maxRetries.toNat := retries.symm.trans_le a.inv.retries_le
    have some_ : h.attempts.length < ts.opened.length := by
      rw [c.opened_length, begun]
      exact Nat.lt_succ_self _
    have opened := List.getElem?_eq_getElem some_
    have pending : ts.ended[h.attempts.length]? = none := by simp [c.ended_length]
    have same := instant _ _ opened
    rw [pending, Option.getD_none,
      c.at_dial told lt (c.at_decision a instant told first length) opened] at same
    have le := dial_le_givenUp told lt
    omega
  | dialed _ decided present =>
    obtain ⟨k, f, last, ended, le⟩ := rest decided
    exact present k f last ended ▸ (Clock.le_after ..).trans le
  | past phase =>
    obtain ⟨-, o, last, -, is⟩ := a.settled (.inr phase)
    obtain ⟨fault, rfl, -⟩ := retriable o (List.mem_of_getElem? last)
    exact absurd is.1 going

/-- The loop waits no longer and no shorter than it should, whatever happens meanwhile. -/
theorem outage_timetable (punctual : b.Punctual) (o : TimedOutage b ts now h x) :
    Timetable b ts now h x := by
  have a := o.outage.along
  have c := o.clocked punctual
  constructor
  case first => exact c.opened 0
  case next =>
    intro k t opened
    obtain ⟨d, decided, rfl⟩ := c.opened (k + 1) t opened
    obtain ⟨f, ended, rfl⟩ := c.decided k d decided
    exact ⟨f, ended, rfl⟩
  case firstDue => exact fun start => c.first_due a
  case nextDue => exact fun k f => c.next_due a
  case goes =>
    rcases went : x.stepLoop b now with ⟨turn, z⟩
    cases turn with
    | true => exact .inl rfl
    | false =>
      exact .inr ⟨z, .intro (Nat.le_succ now) (stepCall_of_isOver (a.inv.isOver a.unasked) now) went
        (fun _ _ => le_max_left ..) fun _ _ => le_max_left ..⟩
  case givenUp =>
    intro start first retriable instant told
    split
    · rename_i failed
      exact c.given_up a instant told first retriable failed
    · rename_i going
      exact c.not_late a instant told first retriable going

/-- The broker cannot be reached, and the one attempt that is allowed fails in no time. -/
theorem outage_timetable_unreachable :
    ∃ (ts : Times) (h : History)
      (x : Session Ledger Ledger.Client (Except SessionError Ledger.Client) Ledger.Client),
      Ledger.backend.Punctual ∧ TimedOutage Ledger.backend ts 1100 h x ∧ ts.decided = [0, 1100] ∧
        ts.opened = [1000] ∧ ts.gaveUp = some (x.settings.givenUp 0) ∧
        Timetable Ledger.backend ts 1100 h x := by
  have r := Reachable.new (b := Ledger.backend) { maxRetries := 1 } ({} : Ledger)
  have r := r.move (m := .connect 0 { host := "broker" } none) rfl
  have r := r.move (m := .call 0) trivial
  have r := r.move (m := .outside { pendingDrop := some .connectionClosed, failingDials := 1 }) trivial
  have o := TimedOutage.lost r (m := .loop 0) (by decide) trivial rfl (by decide) (by decide)
  have o := o.pass (by decide) (.of_idle 1000 (by decide) (by decide) (by decide) (by decide) (by decide))
  have o := o.move (m := .loop 1000) (by decide) trivial rfl (by decide)
  have o := o.move (m := .loop 1000) (by decide) trivial rfl (by decide)
  have o := o.move (m := .loop 1000) (by decide) trivial rfl (by decide)
  have o := o.pass (by decide) (.of_idle 1100 (by decide) (by decide) (by decide) (by decide) (by decide))
  have o := o.move (m := .loop 1100) (by decide) trivial rfl (by decide)
  have o := o.move (m := .loop 1100) (by decide) trivial rfl (by decide)
  exact ⟨_, _, _, Ledger.punctual, o, by decide, by decide, by decide,
    outage_timetable Ledger.punctual o⟩

/-- A delay whose end the clock cannot tell is cut to thirty years. -/
theorem dial_before_delay :
    ¬ ∀ (ts : Times) (now : Nat) (h : History)
      (x : Session Ledger Ledger.Client (Except SessionError Ledger.Client) Ledger.Client),
      TimedOutage Ledger.backend ts now h x → ∀ start t : Nat, ts.decided[0]? = some start →
        ts.opened[0]? = some t → t = start + (x.settings.backoff.delay 0).toNat := by
  intro exact_
  have r := Reachable.new (b := Ledger.backend) { backoff := ⟨Saturating.top, Saturating.top⟩ } ({} : Ledger)
  have r := r.move (m := .connect 0 { host := "broker" } none) rfl
  have r := r.move (m := .call 0) trivial
  have r := r.move (m := .outside { pendingDrop := some .connectionClosed }) trivial
  have o := TimedOutage.lost r (m := .loop 100) (by decide) trivial rfl (by decide) (by decide)
  have o := o.pass (by decide)
    (.of_idle 946080000100 (by decide) (by decide) (by decide) (by decide) (by decide))
  have o := o.move (m := .loop 946080000100) (by decide) trivial rfl (by decide)
  exact absurd (exact_ _ _ _ _ o 100 946080000100 (by decide) (by decide)) (by decide)

end Session

end MqttLink
