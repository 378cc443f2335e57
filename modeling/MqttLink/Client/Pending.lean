import Std.Data.ExtTreeMap

/-!
# Exchanges under way

A packet that expects an answer carries an id, and the id stays taken until the exchange is over.
The table says for every taken id which answer comes next.
-/

namespace MqttLink

/-- The answer that an exchange waits for. -/
inductive Awaited where
  | puback
  | pubrec
  | pubcomp
  | suback
  | unsuback
  deriving DecidableEq, Repr

abbrev Pending := Std.ExtTreeMap UInt16 Awaited

namespace Pending

/-- Ids are 1 to 65535, so no more exchanges than this fit. -/
def capacity : Nat := 65535

/-- The first free id after `last`, looking no further than `steps` ids ahead. -/
def search (taken : UInt16 → Bool) : Nat → UInt16 → Option UInt16
  | 0, _ => none
  | steps + 1, last =>
    let id := last + 1
    if id ≠ 0 ∧ taken id = false then some id else search taken steps id

/-- The first free id after `last`; counting wraps and leaves out zero. -/
def freeAfter (p : Pending) (last : UInt16) : Option UInt16 := search p.contains (capacity + 1) last

theorem search_spec {taken : UInt16 → Bool} {steps : Nat} {last id : UInt16}
    (h : search taken steps last = some id) : id ≠ 0 ∧ taken id = false := by
  induction steps generalizing last with
  | zero => simp [search] at h
  | succ steps ih =>
    simp only [search] at h
    split at h
    · cases h
      assumption
    · exact ih h

theorem freeAfter_spec {p : Pending} {last id : UInt16} (h : p.freeAfter last = some id) :
    id ≠ 0 ∧ id ∉ p := by
  refine ⟨(search_spec h).1, fun mem => ?_⟩
  simpa [Std.ExtTreeMap.mem_iff_contains.1 mem] using (search_spec h).2

end Pending

end MqttLink
