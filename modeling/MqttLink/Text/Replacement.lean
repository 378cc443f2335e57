import MqttLink.Text.Runs

/-!
# Characters that stand for others

Characters that follow each other often stand for characters that follow each other too, and so do
every second of them. A table is written in words such as `60*1a=41+301`: how far the run begins
behind the one before, how many characters are in it, and what the first of them stands for, all in
base sixteen. With `/` in place of `*` the run has every second character.
-/

namespace MqttLink.Text

/-- A run of characters, and what the first of them stands for. -/
structure Replacement where
  first : Nat
  count : Nat := 1
  stride : Nat := 1
  text : List Nat
  deriving DecidableEq, Repr

namespace Replacement

/-- What stands before a sign, and what stands behind it. -/
def cutAt (sign : Char) (cs : List Char) : List Char × List Char :=
  (cs.takeWhile (· != sign), (cs.dropWhile (· != sign)).drop 1)

/-- The numbers between the signs. -/
def numbers (sign : Char) (cs : List Char) : List Nat :=
  (cs.splitOn sign).map hexNumber

/-- The code points of a run. -/
def points (r : Replacement) : List Nat := (List.range r.count).map fun n => r.first + n * r.stride

/-- A run that is told relative to the place of the one before. -/
def ofWord (place : Nat) (word : List Char) : Replacement :=
  let (run, text) := cutAt '=' word
  let stride := if run.contains '/' then 2 else 1
  let (gap, count) := cutAt (if stride = 2 then '/' else '*') run
  { first := place + hexNumber gap
    count := if count.isEmpty then 1 else hexNumber count
    stride
    text := numbers '+' text }

/-- What a code point stands for. It is as far into the run as its counterpart. -/
def at? (r : Replacement) (point : Nat) : Option (List Char) :=
  let distance := point - r.first
  if r.first ≤ point ∧ distance % r.stride = 0 ∧ distance / r.stride < r.count then
    match r.text with
    | [] => some []
    | head :: rest => some (((head + distance) :: rest).map Char.ofNat)
  else none

example : (ofWord 0 ['4', '1', '*', '1', 'a', '=', '6', '1']).at? 0x5A = some ['z'] := by
  decide +kernel

example : (ofWord 0 ['c', '0', '=', '4', '1', '+', '3', '0', '0']).at? 0xC0 =
    some ['A', '\u0300'] := by
  decide +kernel

end Replacement

/-- The runs are in order. -/
structure Replacements where
  firsts : Array Nat := #[]
  runs : Array Replacement := #[]

namespace Replacements

def push (rs : Replacements) (r : Replacement) : Replacements where
  firsts := rs.firsts.push r.first
  runs := rs.runs.push r

def ofText (s : String) : Replacements :=
  ((words s).foldl (fun (rs, place) word =>
    let r := Replacement.ofWord place word
    (rs.push r, r.first)) (({} : Replacements), 0)).1

/-- Only the last run that begins at a character or before it can have it. -/
def find? (rs : Replacements) (c : Char) : Option (List Char) :=
  match countUpTo rs.firsts c.toNat with
  | 0 => none
  | n + 1 => rs.runs[n]?.bind fun r => r.at? c.toNat

def points (rs : Replacements) : List Char :=
  (rs.runs.toList.flatMap Replacement.points).map Char.ofNat

/-- A character that is in no run stands for itself. -/
def apply (rs : Replacements) (c : Char) : List Char := (rs.find? c).getD [c]

end Replacements

end MqttLink.Text
