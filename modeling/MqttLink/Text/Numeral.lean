/-!
# Decimal numerals

A numeral has at least one digit, any number of zeros in front, and perhaps a sign.
-/

namespace MqttLink.Text

def digits? (cs : List Char) : Option Nat :=
  if cs.isEmpty || !cs.all Char.isDigit then none
  else some (cs.foldl (fun n c => n * 10 + (c.toNat - 48)) 0)

/-- A number without a sign, or with a plus. -/
def natural? (s : String) : Option Nat :=
  match s.toList with
  | '+' :: rest => digits? rest
  | cs => digits? cs

def integer? (s : String) : Option Int :=
  match s.toList with
  | '-' :: rest => (digits? rest).map fun n => -n
  | _ => (natural? s).map fun n => n

/-- A natural number below a bound. -/
def naturalBelow? (bound : Nat) (s : String) : Option Nat := (natural? s).filter (· < bound)

/-- The same, but zero may have a minus. -/
def integerBelow? (bound : Nat) (s : String) : Option Nat :=
  match integer? s with
  | none => none
  | some n => if 0 ≤ n ∧ n < bound then some n.toNat else none

end MqttLink.Text
