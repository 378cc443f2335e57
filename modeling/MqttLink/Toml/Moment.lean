import MqttLink.Address.Ipv4
import MqttLink.Toml.Value

/-!
# Dates and times

A date, a time of day, or a date with a time and perhaps the distance from universal time. Nothing
here is computed with, but a date has to exist.
-/

namespace MqttLink.Toml

/-- So many digits, and their value. -/
def takeDigits? (count : Nat) (cs : List Char) : Option (Nat × List Char) := do
  let digits ← (cs.take count).mapM Ipv4.digit?
  if digits.length = count then
    some (digits.foldl (fun n d => n * 10 + d) 0, cs.drop count)
  else none

/-- Two digits within bounds. -/
def takeTwo? (low high : Nat) (cs : List Char) : Option (Nat × List Char) := do
  let (n, rest) ← takeDigits? 2 cs
  if low ≤ n ∧ n ≤ high then some (n, rest) else none

def takeChar? (p : Char → Bool) : List Char → Option (List Char)
  | c :: rest => if p c then some rest else none
  | [] => none

def isLeap (year : Nat) : Bool := year % 4 == 0 && (year % 100 != 0 || year % 400 == 0)

def daysIn (year month : Nat) : Nat :=
  if month = 2 then if isLeap year then 29 else 28
  else if [4, 6, 9, 11].contains month then 30
  else 31

def skipDate? (cs : List Char) : Option (List Char) := do
  let (year, cs) ← takeDigits? 4 cs
  let cs ← takeChar? (· == '-') cs
  let (month, cs) ← takeTwo? 1 12 cs
  let cs ← takeChar? (· == '-') cs
  let (_, cs) ← takeTwo? 1 (daysIn year month) cs
  return cs

/-- A fraction of a second has at least one digit. -/
def skipFraction (cs : List Char) : List Char :=
  match cs with
  | '.' :: d :: rest => if d.isDigit then rest.dropWhile Char.isDigit else cs
  | _ => cs

/-- The sixtieth second is one that was inserted. -/
def skipTime? (cs : List Char) : Option (List Char) := do
  let (_, cs) ← takeTwo? 0 23 cs
  let cs ← takeChar? (· == ':') cs
  let (_, cs) ← takeTwo? 0 59 cs
  let cs ← takeChar? (· == ':') cs
  let (_, cs) ← takeTwo? 0 60 cs
  return skipFraction cs

def skipOffset? (cs : List Char) : Option (List Char) := do
  match takeChar? (fun c => c == 'Z' || c == 'z') cs with
  | some cs => return cs
  | none =>
    let cs ← takeChar? (fun c => c == '+' || c == '-') cs
    let (_, cs) ← takeTwo? 0 23 cs
    let cs ← takeChar? (· == ':') cs
    let (_, cs) ← takeTwo? 0 59 cs
    return cs

/-- The time that follows a date, with its distance from universal time. -/
def skipTimeOfDate? (cs : List Char) : Option (List Char) := do
  let cs ← takeChar? (fun c => c == 'T' || c == 't' || c == ' ') cs
  let cs ← skipTime? cs
  return (skipOffset? cs).getD cs

def skipMoment? (cs : List Char) : Option (List Char) :=
  match skipDate? cs with
  | some rest => some ((skipTimeOfDate? rest).getD rest)
  | none => skipTime? cs

def takeMoment? (cs : List Char) : Option (Value × List Char) :=
  (skipMoment? cs).map fun rest => (.moment (spelling cs rest), rest)

end MqttLink.Toml
