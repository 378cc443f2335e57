import MqttLink.Bytes

/-!
# Reading bytes as text, come what may

Every maximal beginning of a character that is cut short by a wrong byte becomes one U+FFFD, and so
does every byte that can begin nothing.
-/

namespace MqttLink.Text

/-- How a character may go on after its first byte: the number of further bytes and the range of the
next one. The later ones are always 80 to BF. -/
structure Lead where
  more : Nat
  low : UInt8 := 0x80
  high : UInt8 := 0xBF

def Lead.of? (b : UInt8) : Option Lead :=
  if 0xC2 ≤ b && b ≤ 0xDF then some { more := 1 }
  else if b == 0xE0 then some { more := 2, low := 0xA0 }
  else if b == 0xED then some { more := 2, high := 0x9F }
  else if 0xE1 ≤ b && b ≤ 0xEF then some { more := 2 }
  else if b == 0xF0 then some { more := 3, low := 0x90 }
  else if b == 0xF4 then some { more := 3, high := 0x8F }
  else if 0xF1 ≤ b && b ≤ 0xF3 then some { more := 3 }
  else none

/-- How many of the next bytes continue the character, at most `more`. -/
def continuation : Lead → Bytes → Nat
  | ⟨0, _, _⟩, _ | _, [] => 0
  | ⟨more + 1, low, high⟩, b :: rest =>
    if low ≤ b && b ≤ high then 1 + continuation { more } rest else 0

def replacement : Char := Char.ofNat 0xFFFD

/-- The value of six bits per byte. -/
def joinSixes (first : Nat) (rest : Bytes) : Nat :=
  rest.foldl (fun n b => n * 64 + (b &&& 0x3F).toNat) first

/-- The bits that a first byte contributes. -/
def leadBits (b : UInt8) (more : Nat) : Nat := b.toNat % (1 <<< (6 - more))

def lossyChars : Bytes → List Char
  | [] => []
  | b :: rest =>
    if b < 0x80 then Char.ofNat b.toNat :: lossyChars rest
    else match Lead.of? b with
      | none => replacement :: lossyChars rest
      | some lead =>
        let n := continuation lead rest
        let c :=
          if n = lead.more then Char.ofNat (joinSixes (leadBits b n) (rest.take n)) else replacement
        c :: lossyChars (rest.drop n)
termination_by b => b.length
decreasing_by all_goals simp only [List.length_cons, List.length_drop]; omega

def lossy (b : Bytes) : String := String.ofList (lossyChars b)

end MqttLink.Text
