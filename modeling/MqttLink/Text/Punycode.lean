/-!
# Punycode

A text in the letters, digits and hyphens of ASCII: its plain characters come first, and then a number
for each of the others, which says how far it is from the one before in code point and in place.
-/

namespace MqttLink.Text.Punycode

def digit? (c : Char) : Option Nat :=
  if c.isDigit then some (c.toNat - 22)
  else if c.isAlpha then some (c.toLower.toNat - 97)
  else none

/-- A digit below this ends its number. -/
def threshold (bias place : Nat) : Nat := min 26 (max 1 (place - bias))

def adaptFrom (delta places : Nat) : Nat :=
  if 455 < delta then adaptFrom (delta / 35) (places + 36)
  else places + 36 * delta / (delta + 38)
termination_by delta
decreasing_by omega

/-- The bias follows the size of the last number. -/
def adapt (delta size : Nat) (first : Bool) : Nat :=
  let delta := if first then delta / 700 else delta / 2
  adaptFrom (delta + delta / size) 0

structure Decoding where
  text : List Char
  point : Nat := 128
  /-- The place behind the character inserted last. -/
  index : Nat := 0
  bias : Nat := 72
  /-- The number under way, with the weight and the place of its next digit. -/
  number : Nat := 0
  weight : Nat := 1
  place : Nat := 36

namespace Decoding

/-- Inserts the character that a number stands for. -/
def insert (number : Nat) (d : Decoding) : Option Decoding :=
  let size := d.text.length + 1
  let distance := d.index + number
  let point := d.point + distance / size
  let index := distance % size
  if point.isValidChar then
    some
      { text := d.text.take index ++ Char.ofNat point :: d.text.drop index
        point
        index := index + 1
        bias := adapt number size (d.index = 0) }
  else none

/-- Neither a distance nor a weight reaches this. -/
def limit : Nat := UInt32.size

def step (d : Decoding) (c : Char) : Option Decoding := do
  let digit ← digit? c
  let number := d.number + digit * d.weight
  let bound := threshold d.bias d.place
  let weight := d.weight * (36 - bound)
  if limit ≤ d.index + number then none
  else if digit < bound then d.insert number
  else if limit ≤ weight then none
  else some { d with number, weight, place := d.place + 36 }

end Decoding

/-- The plain characters and the numbers, with the last hyphen between them. One at the beginning
stands between nothing. -/
def split (cs : List Char) : List Char × List Char :=
  let numbers := (cs.reverse.takeWhile (· != '-')).reverse
  let plain := cs.take (cs.length - numbers.length - 1)
  if plain.isEmpty then ([], cs) else (plain, numbers)

def decode? (cs : List Char) : Option (List Char) := do
  let (plain, numbers) := split cs
  let d ← numbers.foldlM Decoding.step { text := plain }
  if d.place = 36 then some d.text else none

example : decode? ['b', 'c', 'h', 'e', 'r', '-', 'k', 'v', 'a'] = some ['b', 'ü', 'c', 'h', 'e', 'r'] := by
  decide +kernel

example : decode? ['f', 'i', 'q', 's', '8', 's'] = some ['中', '国'] := by decide +kernel

example : decode? ['a', 'b', 'c', '-'] = some ['a', 'b', 'c'] := by decide +kernel

end MqttLink.Text.Punycode
