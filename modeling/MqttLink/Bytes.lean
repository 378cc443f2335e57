/-!
# Byte strings

A byte string is a plain list. Texts travel as UTF-8, numbers as two bytes with the high one first.
-/

namespace MqttLink

abbrev Bytes := List UInt8

namespace Bytes

/-! ## Texts -/

/-- The UTF-8 form of a text. -/
def ofText (s : String) : Bytes := s.toByteArray.data.toList

/-- The text whose UTF-8 form this is, if there is one. -/
def toText? (b : Bytes) : Option String := String.fromUTF8? ⟨b.toArray⟩

theorem toText?_ofText (s : String) : toText? (ofText s) = some s := by
  simp [toText?, ofText, String.fromUTF8?, String.fromUTF8, s.isValidUTF8]

theorem ofText_of_toText? {b : Bytes} {s : String} (h : toText? b = some s) : ofText s = b := by
  simp only [toText?, String.fromUTF8?] at h
  split at h
  · cases h
    simp [ofText, String.fromUTF8]
  · simp at h

theorem length_ofText (s : String) : (ofText s).length = s.utf8ByteSize := by
  rw [ofText, Array.length_toList, ByteArray.size_data, String.size_toByteArray]

/-! ## Two-byte numbers -/

def ofUInt16 (n : UInt16) : Bytes := [(n >>> 8).toUInt8, n.toUInt8]

def joinUInt16 (high low : UInt8) : UInt16 := high.toUInt16 <<< 8 ||| low.toUInt16

/-- A two-byte number and what follows it. -/
def takeUInt16? : Bytes → Option (UInt16 × Bytes)
  | high :: low :: rest => some (joinUInt16 high low, rest)
  | _ => none

theorem joinUInt16_split (n : UInt16) : joinUInt16 (n >>> 8).toUInt8 n.toUInt8 = n := by
  apply UInt16.eq_of_toBitVec_eq
  simp only [joinUInt16, UInt16.toBitVec_or, UInt16.toBitVec_shiftLeft, UInt8.toBitVec_toUInt16,
    UInt16.toBitVec_toUInt8, UInt16.toBitVec_shiftRight]
  ext i hi
  rcases Nat.lt_or_ge i 8 with h | h
  · simp [h, BitVec.getLsbD_eq_getElem hi]
  · have : i - 8 < 8 := by omega
    have e : 8 + (i - 8) = i := by omega
    simp [Nat.not_lt.2 h, this, e, hi]

theorem takeUInt16?_ofUInt16_append (n : UInt16) (rest : Bytes) :
    takeUInt16? (ofUInt16 n ++ rest) = some (n, rest) := by
  simp [takeUInt16?, ofUInt16, joinUInt16_split]

/-! ## What is left -/

/-- Of a text that is not empty less is left once something has been taken. -/
theorem length_drop_lt {b : Bytes} {n : Nat} (some_ : ¬ b.isEmpty = true) (pos : ¬ n = 0) :
    (b.drop n).length < b.length := by
  have : b.length ≠ 0 := fun empty => some_ (List.isEmpty_iff.2 (List.length_eq_zero_iff.1 empty))
  rw [List.length_drop]
  omega

end Bytes

end MqttLink
