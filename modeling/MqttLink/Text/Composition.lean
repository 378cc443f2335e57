import MqttLink.Text.Composition.Table
import MqttLink.Text.Mark

/-!
# Composition

A text may be written in several ways that mean the same: a letter with its marks in one character or
in many, and the marks in any order that does not make a difference. To compose a text is to choose
one of them: everything is taken apart, marks are put in order, and what can be put together is.
-/

namespace MqttLink.Text.Composition

/-! ## Syllables

A Korean syllable is made of two or three letters by arithmetic alone. -/

def leads : Nat := 0x1100

def vowels : Nat := 0x1161

/-- The place before the first of the last letters. -/
def tails : Nat := 0x11A7

def syllables : Nat := 0xAC00

def leadCount : Nat := 19

def vowelCount : Nat := 21

/-- No last letter counts as one of them. -/
def tailCount : Nat := 28

/-- The letters of a syllable. -/
def letters? (c : Char) : Option (List Char) :=
  let index := c.toNat - syllables
  if syllables ≤ c.toNat ∧ index < leadCount * vowelCount * tailCount then
    let tail := index % tailCount
    let start := [Char.ofNat (leads + index / tailCount / vowelCount),
      Char.ofNat (vowels + index / tailCount % vowelCount)]
    some (if tail = 0 then start else start ++ [Char.ofNat (tails + tail)])
  else none

/-- Two letters make a syllable, and a syllable without a last letter takes one. -/
def syllable? (a b : Char) : Option Char :=
  let lead := a.toNat - leads
  let vowel := b.toNat - vowels
  let index := a.toNat - syllables
  let tail := b.toNat - tails
  if leads ≤ a.toNat ∧ lead < leadCount ∧ vowels ≤ b.toNat ∧ vowel < vowelCount then
    some (Char.ofNat (syllables + (lead * vowelCount + vowel) * tailCount))
  else if syllables ≤ a.toNat ∧ index < leadCount * vowelCount * tailCount ∧ index % tailCount = 0 ∧
      tails < b.toNat ∧ tail < tailCount then
    some (Char.ofNat (a.toNat + tail))
  else none

/-! ## Taking apart -/

/-- What a character is made of, one layer down. -/
def pieces (c : Char) : List Char := (letters? c).getD (written.apply c)

/-- No character has more layers than this. -/
def depth : Nat := 3

def decompose (cs : List Char) : List Char := depth.repeat (·.flatMap pieces) cs

/-! ## The order of marks -/

/-- A mark goes behind marks of lower rank, but not beyond a character without a rank. -/
def settle (c : Char) : List Char → List Char
  | [] => [c]
  | d :: rest => if rank d ≠ 0 ∧ rank d < rank c then d :: settle c rest else c :: d :: rest

def inOrder (cs : List Char) : List Char := cs.foldr settle []

theorem settle_perm (c : Char) (cs : List Char) : (settle c cs).Perm (c :: cs) := by
  induction cs with
  | nil => exact .refl _
  | cons d rest ih =>
    unfold settle
    split
    · exact (ih.cons d).trans (.swap c d rest)
    · exact .refl _

/-- Nothing is lost or added. -/
theorem inOrder_perm (cs : List Char) : (inOrder cs).Perm cs := by
  induction cs with
  | nil => exact .refl _
  | cons c rest ih => exact (settle_perm c (inOrder rest)).trans (ih.cons c)

/-! ## Putting together -/

/-- The characters that stand for two, in the table of them. -/
def pairs : List (Char × List Char) :=
  (written.points.filter fun c => !apart.contains c).map fun c => (c, written.apply c)

def pair? (a b : Char) : Option Char :=
  (syllable? a b).or ((pairs.find? (·.2 == [a, b])).map (·.1))

/-- Between a character and a mark that it takes stand only marks of lower rank. What has been read
and stays is kept with the latest first. -/
def joinFrom (base : Char) (kept : List Char) : List Char → List Char
  | [] => base :: kept.reverse
  | c :: rest =>
    match if kept.all fun k => rank k < rank c then pair? base c else none with
    | some joined => joinFrom joined kept rest
    | none =>
      if rank c = 0 then base :: kept.reverse ++ joinFrom c [] rest
      else joinFrom base (c :: kept) rest

def join : List Char → List Char
  | [] => []
  | c :: rest => joinFrom c [] rest

end Composition

def compose (cs : List Char) : List Char :=
  Composition.join (Composition.inOrder (Composition.decompose cs))

end MqttLink.Text
