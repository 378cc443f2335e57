import MqttLink.Text.Percent

/-!
# Sets of characters as runs

A set is written as the lengths of the runs of code points outside and inside of it, in turn, in base
sixteen. A code point is inside if an odd number of bounds lie at or before it, and a search by halves
counts them.
-/

namespace MqttLink.Text

/-- What is no digit counts as zero. -/
def hexNumber (cs : List Char) : Nat := cs.foldl (fun n c => 16 * n + (hexValue? c).getD 0) 0

/-- What stands between blanks and line ends. -/
def words (s : String) : List (List Char) :=
  (s.toList.splitOnP fun c => c == ' ' || c == '\n').filter (· != [])

/-! ## Searching -/

/-- The place behind the last number up to a bound, between two places of an increasing array. -/
def placeIn (a : Array Nat) (bound low high : Nat) : Nat :=
  if low < high then
    let middle := (low + high) / 2
    if a.getD middle 0 ≤ bound then placeIn a bound (middle + 1) high
    else placeIn a bound low middle
  else low
termination_by high - low

/-- How many numbers of an increasing array are up to a bound. -/
def countUpTo (a : Array Nat) (bound : Nat) : Nat := placeIn a bound 0 a.size

/-! ## Sets -/

structure Runs where
  /-- Where the set begins and ends, in turn. -/
  bounds : Array Nat := #[]

namespace Runs

/-- Each length leads from one bound to the next. -/
def ofLengths (lengths : List Nat) : Runs where
  bounds := (lengths.foldl (fun (bounds, last) n => (bounds.push (last + n), last + n)) (#[], 0)).1

def ofText (s : String) : Runs := ofLengths ((words s).map hexNumber)

def contains (r : Runs) (c : Char) : Bool := countUpTo r.bounds c.toNat % 2 == 1

example : ['@', 'A', 'Z', '['].map (ofLengths [65, 26]).contains = [false, true, true, false] := by
  decide +kernel

end Runs

end MqttLink.Text
