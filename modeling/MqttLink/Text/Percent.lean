import MqttLink.Bytes

/-!
# Percent encoding

A byte is written as `%` and its two digits in base sixteen. Main statement: an encoded text holds
neither controls nor anything beyond ASCII.
-/

namespace MqttLink.Text

def hexDigit (n : Nat) : Char := Char.ofNat (if n < 10 then 48 + n else 55 + n)

def percentByte (b : UInt8) : List Char := ['%', hexDigit (b.toNat / 16), hexDigit (b.toNat % 16)]

/-- ASCII without the controls. -/
def isPlain (c : Char) : Bool := 0x20 ≤ c.toNat && c.toNat < 0x7F

/-- Controls and everything beyond ASCII are written byte by byte. -/
def percentChar (c : Char) : List Char :=
  if isPlain c then [c] else (Bytes.ofText c.toString).flatMap percentByte

def percentEncode (cs : List Char) : List Char := cs.flatMap percentChar

def hexValue? (c : Char) : Option Nat :=
  let n := c.toNat
  if 48 ≤ n ∧ n ≤ 57 then some (n - 48)
  else if 65 ≤ n ∧ n ≤ 70 then some (n - 55)
  else if 97 ≤ n ∧ n ≤ 102 then some (n - 87)
  else none

/-- Only a complete `%` with two digits stands for another byte. -/
def percentDecode : List Char → Bytes
  | [] => []
  | '%' :: a :: b :: rest =>
    match hexValue? a, hexValue? b with
    | some high, some low => (high * 16 + low).toUInt8 :: percentDecode rest
    | _, _ => 0x25 :: percentDecode (a :: b :: rest)
  | c :: rest => Bytes.ofText c.toString ++ percentDecode rest

theorem isPlain_hexDigit {n : Nat} (h : n < 16) : isPlain (hexDigit n) = true := by
  have all : ∀ m : Fin 16, isPlain (hexDigit m) = true := by decide
  exact all ⟨n, h⟩

theorem isPlain_of_mem_percentByte {b : UInt8} {c : Char} (h : c ∈ percentByte b) :
    isPlain c = true := by
  have : b.toNat < 256 := b.toNat_lt
  simp only [percentByte, List.mem_cons, List.not_mem_nil, or_false] at h
  rcases h with rfl | rfl | rfl
  · decide
  · exact isPlain_hexDigit (by omega)
  · exact isPlain_hexDigit (by omega)

theorem isPlain_of_mem_percentEncode {cs : List Char} {c : Char} (h : c ∈ percentEncode cs) :
    isPlain c = true := by
  obtain ⟨d, -, hd⟩ := List.mem_flatMap.1 h
  unfold percentChar at hd
  split at hd
  · simp_all
  · obtain ⟨b, -, hb⟩ := List.mem_flatMap.1 hd
    exact isPlain_of_mem_percentByte hb

end MqttLink.Text
