/-!
# Backoff

The wait before each attempt doubles until it reaches a limit. All arithmetic stays at the largest
64-bit number instead of passing it.
-/

namespace MqttLink

/-! ## Arithmetic that stops at the top -/

namespace Saturating

def top : UInt64 := 18446744073709551615

def add (a b : UInt64) : UInt64 := if top - a < b then top else a + b

def mul (a b : UInt64) : UInt64 := if a ≠ 0 ∧ top / a < b then top else a * b

/-- A power of two; the exponents from 64 on all give the largest number. -/
def twoPow (n : Nat) : UInt64 := if n < 64 then 1 <<< n.toUInt64 else top

theorem toNat_top : top.toNat = 18446744073709551615 := rfl

theorem toNat_add (a b : UInt64) :
    (add a b).toNat = min 18446744073709551615 (a.toNat + b.toNat) := by
  have ha := a.toNat_lt
  have hb := b.toNat_lt
  have h : (top - a).toNat = 18446744073709551615 - a.toNat := by
    rw [UInt64.toNat_sub_of_le _ _ (UInt64.le_iff_toNat_le.2 (by rw [toNat_top]; omega)), toNat_top]
  unfold add
  split <;> rename_i hlt <;> rw [UInt64.lt_iff_toNat_lt, h] at hlt
  · rw [toNat_top]; omega
  · rw [UInt64.toNat_add]; omega

end Saturating

/-! ## Delays -/

/-- The first delay and the limit, in milliseconds. -/
structure Backoff where
  base : UInt64 := 1000
  max : UInt64 := 30000
  deriving DecidableEq, Repr

namespace Backoff

/-- The wait after this many failed attempts. -/
def delay (b : Backoff) (attempt : Nat) : UInt64 :=
  min (Saturating.mul b.base (Saturating.twoPow attempt)) b.max

theorem delay_le_max (b : Backoff) (attempt : Nat) : b.delay attempt ≤ b.max := by
  unfold delay
  rw [UInt64.le_iff_toNat_le, show ∀ x y : UInt64, min x y = if x ≤ y then x else y from fun _ _ => rfl]
  split <;> rename_i h
  · exact UInt64.le_iff_toNat_le.1 h
  · exact Nat.le_refl _

/-- From the 64th attempt on nothing changes any more. -/
theorem delay_of_le (b : Backoff) {attempt : Nat} (h : 64 ≤ attempt) :
    b.delay attempt = b.delay 64 := by
  simp [delay, Saturating.twoPow, Nat.not_lt.2 h]

/-- The sum of the first `attempts` delays, each addition stopping at the top. -/
def sum (b : Backoff) (attempts : Nat) : UInt64 :=
  ((List.range attempts).map b.delay).foldl Saturating.add 0

theorem sum_succ (b : Backoff) (attempts : Nat) :
    b.sum (attempts + 1) = Saturating.add (b.sum attempts) (b.delay attempts) := by
  rw [sum, List.range_succ, List.map_append, List.foldl_append, List.map_singleton, List.foldl_cons,
    List.foldl_nil, ← sum]

/-- All waiting before giving up. -/
def total (b : Backoff) (attempts : UInt32) : UInt64 := b.sum attempts.toNat

/-- All waiting before giving up, in few steps however many attempts there are. The delays from the 64th
on are equal, so their sum is a product. -/
def totalByProduct (b : Backoff) (attempts : UInt32) : UInt64 :=
  let n := attempts.toNat
  Saturating.add (b.sum (min n 64)) (Saturating.mul (b.delay 64) (n - 64).toUInt64)

end Backoff

end MqttLink
