import MqttLink.Address.Domain.Table
import MqttLink.Text.Composition
import MqttLink.Text.Direction
import MqttLink.Text.Joining
import MqttLink.Text.Punycode

/-!
# Domains

A domain is written in the letters of any language. It is read in one normal form, in small letters,
and each of its labels is checked on its own. Main statement: a label that is accepted holds nothing
that delimits other parts of a URL.
-/

namespace MqttLink.Domain

/-! ## The normal form -/

/-- What a character counts as in a domain, if it may be there. -/
def reading? (c : Char) : Option (List Char) :=
  if refused.contains c then none
  else if ignored.contains c then some []
  else some (replaced.apply c)

def normal? (cs : List Char) : Option (List Char) :=
  (cs.mapM reading?).map fun readings => Text.compose readings.flatten

/-! ## Labels -/

def isAscii (c : Char) : Bool := c.toNat < 128

/-- Controls, and what delimits other parts of a URL. -/
def isForbidden (c : Char) : Bool :=
  c.toNat ≤ 0x20 || c.toNat == 0x7F ||
  ['%', '#', '/', ':', '<', '>', '?', '@', '[', '\\', ']', '^', '|'].contains c

/-- The most characters that a label is written in, in Punycode and without it. -/
def maxWritten : Nat := 2000

def maxLength : Nat := 1000

/-- What a label stands for that begins with `xn--`. It has to be beyond ASCII and in normal form. -/
def fromPunycode? (cs : List Char) : Option (List Char) := do
  guard (cs.all isAscii ∧ cs.getLast? ≠ some '-' ∧ cs.length ≤ maxWritten)
  let label ← Text.Punycode.decode? cs
  if label.any (!isAscii ·) ∧ normal? label = some label then some label else none

def label? (cs : List Char) : Option (List Char) :=
  match cs with
  | 'x' :: 'n' :: '-' :: '-' :: rest => fromPunycode? rest
  | _ => if cs.all isAscii ∨ cs.length ≤ maxLength then some cs else none

/-- A label does not begin with a mark, and each of its joiners makes a difference. -/
def isLabel (cs : List Char) : Bool :=
  !cs.any isForbidden && !cs.head?.any Text.isMark && Text.Joining.allFit [] cs

/-! ## All labels -/

/-- The labels of a domain in normal form, if all of them are sound alone and together. -/
def labels? (domain : List Char) : Option (List (List Char)) := do
  let labels ← (domain.splitOn '.').mapM label?
  if labels.all isLabel ∧ Text.Direction.allFit labels then some labels else none

theorem isForbidden_of_mem_labels {domain label : List Char} {labels : List (List Char)} {c : Char}
    (h : labels? domain = some labels) (hl : label ∈ labels) (hc : c ∈ label) :
    isForbidden c = false := by
  obtain ⟨ls, -, hls⟩ := Option.bind_eq_some_iff.1 h
  split at hls
  · next sound =>
    cases hls
    have := List.all_eq_true.1 sound.1 label hl
    simp only [isLabel, Bool.and_eq_true, Bool.not_eq_true', List.any_eq_false] at this
    simpa using this.1.1 c hc
  · cases hls

/-- The normal form of a domain, if it is one. -/
def read? (cs : List Char) : Option String := do
  let domain ← normal? cs
  let _ ← labels? domain
  return String.ofList domain

end MqttLink.Domain
