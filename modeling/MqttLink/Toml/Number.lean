import MqttLink.Toml.Moment

/-!
# Numbers

An integer has 64 bits and a sign, and may be written in base two, eight or sixteen. An underscore
may stand between two digits.
-/

namespace MqttLink.Toml

/-! ## Digits -/

/-- Digits with underscores between them, after at least one. -/
def takeMoreDigits? (base : Nat) : Reader (List Nat)
  | '_' :: c :: rest =>
    match digit? c with
    | some d => (takeMoreDigits? base rest).map fun (ds, rest) => (d :: ds, rest)
    | none => none
  | '_' :: [] => none
  | c :: rest =>
    match digit? c with
    | some d => (takeMoreDigits? base rest).map fun (ds, rest) => (d :: ds, rest)
    | none => some ([], c :: rest)
  | [] => some ([], [])
where
  digit? (c : Char) : Option Nat := (Text.hexValue? c).filter (· < base)

/-- At least one digit. -/
def takeNatural? (base : Nat) : Reader (List Nat)
  | c :: rest =>
    match takeMoreDigits?.digit? base c with
    | some d => (takeMoreDigits? base rest).map fun (ds, rest) => (d :: ds, rest)
    | none => none
  | [] => none

def ofDigits (base : Nat) (ds : List Nat) : Nat := ds.foldl (fun n d => n * base + d) 0

/-- A zero is followed by no further digit. -/
def takeWhole? : Reader (List Nat)
  | '0' :: rest => some ([0], rest)
  | cs => takeNatural? 10 cs

/-! ## Integers -/

def smallest : Int := Int64.minValue.toInt
def largest : Int := Int64.maxValue.toInt

def integer? (n : Int) : Option Value := if smallest ≤ n ∧ n ≤ largest then some (.integer n) else none

def takeInBase? (base : Nat) (cs : List Char) : Option (Value × List Char) := do
  let (ds, rest) ← takeNatural? base cs
  return (← integer? (ofDigits base ds), rest)

/-! ## Numbers with a point or an exponent -/

/-- Whether there is a minus, and what follows the sign. -/
def takeSign : List Char → Bool × List Char
  | '+' :: rest => (false, rest)
  | '-' :: rest => (true, rest)
  | cs => (false, cs)

def signed (negative : Bool) (n : Nat) : Int := if negative then -n else n

/-- The digits behind the point. -/
def takeFraction? (cs : List Char) : Option (List Nat × List Char) :=
  match cs with
  | '.' :: rest => takeNatural? 10 rest
  | _ => some ([], cs)

def takeExponent? (cs : List Char) : Option (Option Int × List Char) :=
  match cs with
  | 'e' :: rest | 'E' :: rest => do
    let (negative, rest) := takeSign rest
    let (ds, rest) ← takeNatural? 10 rest
    return (some (signed negative (ofDigits 10 ds)), rest)
  | _ => some (none, cs)

/-- From here on a number is nearer to infinity than to any double. -/
def overflow : Nat := 1 <<< 1024 - 1 <<< 970

/-- Whether `m · 10 ^ e` overflows. The number of digits of `m` settles all but a few cases. -/
def overflows (m : Nat) (e : Int) : Bool :=
  let size : Int := (Nat.toDigits 10 m).length + e
  if m = 0 ∨ size < 300 then false
  else if 320 < size then true
  else if 0 ≤ e then overflow ≤ m * Nat.pow 10 e.toNat
  else overflow * Nat.pow 10 (-e).toNat ≤ m

/-! ## All of them -/

def takePlain? (cs : List Char) : Option (Value × List Char) := do
  let (negative, body) := takeSign cs
  let (whole, rest) ← takeWhole? body
  let (fraction, rest) ← takeFraction? rest
  let (exponent, rest) ← takeExponent? rest
  if fraction.isEmpty ∧ exponent.isNone then
    return (← integer? (signed negative (ofDigits 10 whole)), rest)
  if !negative ∧ overflows (ofDigits 10 (whole ++ fraction)) (exponent.getD 0 - fraction.length) then
    none
  return (.decimal (spelling cs rest), rest)

/-- An infinity or no number, perhaps with a sign. -/
def takeSpecial? (cs : List Char) : Option (Value × List Char) :=
  match (takeSign cs).2 with
  | 'i' :: 'n' :: 'f' :: rest | 'n' :: 'a' :: 'n' :: rest => some (.decimal (spelling cs rest), rest)
  | _ => none

def takeNumber? (cs : List Char) : Option (Value × List Char) :=
  match takeMoment? cs, takeSpecial? cs with
  | some m, _ => some m
  | none, some s => some s
  | none, none =>
    match cs with
    | '0' :: 'x' :: rest => takeInBase? 16 rest
    | '0' :: 'o' :: rest => takeInBase? 8 rest
    | '0' :: 'b' :: rest => takeInBase? 2 rest
    | _ => takePlain? cs

end MqttLink.Toml
