import Mathlib.Algebra.BigOperators.Group.Finset.Basic
import MqttLink.Settings

/-!
# The delays and their sum

Main statements: a delay is the base doubled once for every failed attempt, up to the limit, and what a loop has
waited in all when it gives up is the sum of its delays, or the largest number where that is too large. Where a
number passes 64 bits on the way makes no difference.
-/

namespace MqttLink

open Finset

theorem Saturating.toNat_mul (a b : UInt64) :
    (mul a b).toNat = min 18446744073709551615 (a.toNat * b.toNat) := by
  have quotient : (top / a).toNat = 18446744073709551615 / a.toNat := by
    rw [UInt64.toNat_div, toNat_top]
  unfold mul
  by_cases zero : a = 0
  · simp [zero]
  · have pos : 0 < a.toNat := Nat.pos_of_ne_zero fun e => zero (UInt64.toNat_inj.1 e)
    have exceeds : top / a < b ↔ 18446744073709551615 < a.toNat * b.toNat := by
      rw [UInt64.lt_iff_toNat_lt, quotient, Nat.div_lt_iff_lt_mul pos, Nat.mul_comm]
    by_cases large : top / a < b
    · rw [if_pos ⟨zero, large⟩, toNat_top, min_eq_left (exceeds.1 large).le]
    · have small := Nat.not_lt.1 (mt exceeds.2 large)
      rw [if_neg fun h => large h.2, UInt64.toNat_mul, min_eq_right small,
        Nat.mod_eq_of_lt (Nat.lt_succ_of_le small)]

theorem Saturating.toNat_twoPow (n : Nat) :
    (twoPow n).toNat = if n < 64 then 2 ^ n else 18446744073709551615 := by
  unfold twoPow
  split
  · rename_i small
    have shift : n.toUInt64.toNat % 64 = n := by
      simp only [Nat.toUInt64_eq, UInt64.toNat_ofNat']
      omega
    have fits : 2 ^ n < 2 ^ 64 := Nat.pow_lt_pow_right (by decide) small
    rw [UInt64.toNat_shiftLeft, shift, UInt64.toNat_one, Nat.one_shiftLeft, Nat.mod_eq_of_lt fits]
  · exact toNat_top

namespace Backoff

/-! ## One delay -/

theorem toNat_delay (b : Backoff) (attempt : Nat) :
    (b.delay attempt).toNat = min (b.base.toNat * 2 ^ attempt) b.max.toNat := by
  have limit := b.max.toNat_lt
  rw [delay, UInt64.toNat_min, Saturating.toNat_mul, Saturating.toNat_twoPow]
  split
  · omega
  · -- The factor is too large, and with it the delay, unless the base is zero.
    rename_i large
    have huge : 2 ^ 64 ≤ 2 ^ attempt := Nat.pow_le_pow_right (by decide) (Nat.le_of_not_lt large)
    rcases Nat.eq_zero_or_pos b.base.toNat with zero | pos
    · rw [zero, Nat.zero_mul, Nat.zero_mul]
      rfl
    · have capped := Nat.le_mul_of_pos_left 18446744073709551615 pos
      have passed := Nat.le_mul_of_pos_left (2 ^ attempt) pos
      omega

theorem delay_mono (b : Backoff) {attempt later : Nat} (h : attempt ≤ later) :
    b.delay attempt ≤ b.delay later := by
  rw [UInt64.le_iff_toNat_le, toNat_delay, toNat_delay]
  have doubled := Nat.mul_le_mul_left b.base.toNat (Nat.pow_le_pow_right (n := 2) (by decide) h)
  omega

/-! ## All delays -/

theorem toNat_sum (b : Backoff) (n : Nat) :
    (b.sum n).toNat = min 18446744073709551615 (∑ k ∈ range n, (b.delay k).toNat) := by
  induction n with
  | zero => rfl
  | succ n ih =>
    rw [sum_succ, Saturating.toNat_add, ih, sum_range_succ]
    omega

/-- The total is exact up to the largest number. -/
theorem toNat_total (b : Backoff) (attempts : UInt32) :
    (b.total attempts).toNat =
      min 18446744073709551615 (∑ k ∈ range attempts.toNat, (b.delay k).toNat) :=
  b.toNat_sum attempts.toNat

/-- The delays from the 64th on make a product. -/
theorem sum_delay (b : Backoff) (n : Nat) :
    ∑ k ∈ range n, (b.delay k).toNat =
      ∑ k ∈ range (min n 64), (b.delay k).toNat + (b.delay 64).toNat * (n - 64) := by
  have constant : ∀ k, (b.delay (64 + k)).toNat = (b.delay 64).toNat := fun k =>
    congrArg UInt64.toNat (b.delay_of_le (Nat.le_add_right ..))
  by_cases few : n ≤ 64
  · rw [min_eq_left few, Nat.sub_eq_zero_of_le few, Nat.mul_zero, Nat.add_zero]
  · obtain ⟨more, rfl⟩ := Nat.exists_eq_add_of_le (Nat.le_of_not_le few)
    rw [sum_range_add, min_eq_right (Nat.le_add_right ..), Nat.add_sub_cancel_left,
      sum_const_nat fun k _ => constant k, card_range, Nat.mul_comm]

/-- The few steps come to the same total as one step for each attempt. -/
theorem total_eq_totalByProduct (b : Backoff) (attempts : UInt32) :
    b.total attempts = b.totalByProduct attempts := by
  have count : (attempts.toNat - 64).toUInt64.toNat = attempts.toNat - 64 := by
    have := attempts.toNat_lt
    simp only [Nat.toUInt64_eq, UInt64.toNat_ofNat']
    omega
  rw [← UInt64.toNat_inj, toNat_total, b.sum_delay attempts.toNat, totalByProduct,
    Saturating.toNat_add, Saturating.toNat_mul, toNat_sum, count]
  omega

end Backoff

/-- Each delay is the base doubled once for every failed attempt, or the limit where that is less, so it keeps to
the limit and never gets shorter. What is waited in all is the sum of the delays, or the largest number where that
is less. -/
theorem backoff_exact :
    (∀ (b : Backoff) (attempt : Nat),
      (b.delay attempt).toNat = min (b.base.toNat * 2 ^ attempt) b.max.toNat ∧
      b.delay attempt ≤ b.max ∧ ∀ later, attempt ≤ later → b.delay attempt ≤ b.delay later) ∧
    ∀ s : Settings, (s.backoff.total s.maxRetries).toNat =
      min (2 ^ 64 - 1)
        (∑ k ∈ range s.maxRetries.toNat, min (s.backoff.base.toNat * 2 ^ k) s.backoff.max.toNat) := by
  constructor
  · intro b attempt
    exact ⟨b.toNat_delay attempt, b.delay_le_max attempt, fun _ => b.delay_mono⟩
  · intro s
    rw [Backoff.toNat_total]
    simp only [Backoff.toNat_delay]
    rfl

/-- The second delay passes 64 bits and so does the factor of the last one, and the sum stays at the top. -/
theorem backoff_exact_at_top :
    let s : Settings := { maxRetries := 65, backoff := ⟨9223372036854775809, 18446744073709551615⟩ }
    1 ≤ 64 ∧ s.backoff.delay 1 ≤ s.backoff.delay 64 ∧
      (s.backoff.delay 64).toNat = 18446744073709551615 ∧
      (s.backoff.total s.maxRetries).toNat = 18446744073709551615 := by
  intro s
  obtain ⟨delays, totals⟩ := backoff_exact
  refine ⟨by decide, (delays s.backoff 1).2.2 64 (by decide), ?_, ?_⟩
  · rw [(delays s.backoff 64).1]
    decide
  · rw [totals s]
    decide

end MqttLink
