import MqttLink.Log.Entry
import MqttLink.Text.Alphanumeric
import MqttLink.Text.Blank
import MqttLink.Text.Pattern

/-!
# Directives on the log

A directive such as `target[span\{field\}]=level` names entries and the level up to which they are
kept. All of its parts may be left out, but not all at once.
-/

namespace MqttLink.Log

structure Directive where
  /-- Where the source of an entry begins. -/
  target : Option String := none
  /-- The stretch of work in which an entry is written. -/
  span : Option String := none
  /-- Something that an entry tells. -/
  field : Option String := none
  /-- Without a level nothing is kept. -/
  level : Option Level
  deriving DecidableEq, Repr

namespace Directive

/-! ## Levels -/

/-- A number may have zeros and one plus sign in front. -/
def number? (s : String) : Option Nat :=
  let digits := match s.toList with
    | '+' :: rest => rest
    | cs => cs
  if digits ≠ [] ∧ digits.all Char.isDigit then
    some (digits.foldl (fun n c => n * 10 + (c.toNat - 48)) 0)
  else none

/-- A level by name or by number. The name `off` and zero keep nothing. -/
def levelOf? (s : String) : Option (Option Level) :=
  match number? s with
  | some 0 => some none
  | some n => (Level.all.find? (·.rank == n)).map some
  | none => if s.toLower = "off" then some none else (Level.ofName? s).map some

example : (levelOf? "+03", levelOf? "Warn", levelOf? "6") = (some (some .info), some (some .warn), none) := by
  decide +kernel

/-! ## Text -/

def mayBegin (c : Char) : Bool := Text.isAlphanumeric c || c == '-' || c == ':' || c == '_'

/-- What follows a target and brackets, if there is room for it. A level that is not written is the
highest. -/
def ending? (hasRoom : Bool) (cs : List Char) : Option (Option Level) :=
  match cs with
  | '=' :: level =>
    if !hasRoom then none
    else if level = [] then some (some .trace)
    else levelOf? (String.ofList level)
  | cs => if cs.all Text.isBlank then some (some .trace) else none

/-- A field may have a value, which is a number or a pattern. -/
def isField (cs : List Char) : Bool :=
  match cs.splitOn '=' with
  | _ :: value :: _ =>
    let value := String.ofList value
    (number? value).isSome || Text.isPattern value
  | _ => !cs.isEmpty

/-- What stands in brackets, and how the directive ends. -/
def brackets? (hasRoom : Bool) (target : Option String) (cs : List Char) : Option Directive :=
  let name := cs.takeWhile fun c => c != ']' && c != '\x7b'
  match cs.dropWhile fun c => c != ']' && c != '\x7b' with
  | ']' :: rest => (ending? hasRoom rest).map fun level => { target, span := some (String.ofList name), level }
  | '\x7b' :: rest =>
    let field := rest.takeWhile (· != '\x7d')
    match rest.dropWhile (· != '\x7d') with
    | '\x7d' :: ']' :: rest =>
      if !isField field then none
      else (ending? hasRoom rest).map fun level =>
        { target
          span := if name = [] then none else some (String.ofList name)
          field := some (String.ofList field)
          level }
    | _ => none
  | _ => none

/-- A text that is no level by itself is a target. -/
def plain (s : String) : Directive :=
  match levelOf? s with
  | some level => { level }
  | none => { target := some s, level := some .trace }

/-- What follows the blanks in front. -/
def read? (hasRoom : Bool) (cs : List Char) : Option Directive :=
  let target := cs.takeWhile fun c => c != '=' && c != '['
  match cs.dropWhile fun c => c != '=' && c != '[' with
  | '[' :: rest => brackets? hasRoom (if target = [] then none else some (String.ofList target)) rest
  | [] => some (plain (String.ofList cs))
  | rest => (ending? hasRoom rest).map fun level => { target := some (String.ofList target), level }

/-- Blanks in front are part of the target, and leave no room for a level behind it. -/
def ofText? (s : String) : Option Directive :=
  let cs := s.toList.dropWhile Text.isBlank
  if cs.head?.any fun c => mayBegin c || c == '[' then
    if s.toList.head?.any Text.isBlank then
      (read? false cs).map fun d => { d with target := some s, level := some .trace }
    else read? true cs
  else none

/-! ## Entries -/

/-- No entry is written in a stretch of work with a name, and a field with a value is one of those. -/
def isPlain (d : Directive) : Bool := d.span.isNone && !d.field.any fun f => f.toList.contains '='

def covers (d : Directive) (e : Entry) : Bool :=
  d.isPlain && d.target.all (·.isPrefixOf e.source.path) && d.field.all (e.fields.contains ·)

def keeps (d : Directive) (l : Level) : Bool := d.level.any (l.rank ≤ ·.rank)

/-- The length of the target, if there is one. -/
def reach (d : Directive) : Nat := d.target.elim 0 (·.utf8ByteSize + 1)

/-- The longer target says more, and then a field does. -/
def saysMore (a b : Directive) : Prop :=
  b.reach < a.reach ∨ (a.reach = b.reach ∧ b.field.getD "" < a.field.getD "")

instance (a b : Directive) : Decidable (a.saysMore b) := inferInstanceAs (Decidable (_ ∨ _))

theorem not_saysMore_self (d : Directive) : ¬ d.saysMore d := by
  rintro (h | ⟨-, h⟩)
  · exact Nat.lt_irrefl _ h
  · exact String.lt_irrefl _ h

theorem not_saysMore_trans {a b c : Directive} (hab : ¬ a.saysMore b) (hbc : ¬ b.saysMore c) :
    ¬ a.saysMore c := by
  simp only [saysMore, not_or, not_and, Nat.not_lt, String.not_lt] at *
  exact ⟨Nat.le_trans hab.1 hbc.1, fun h => String.le_trans
    (hab.2 (Nat.le_antisymm hab.1 (h ▸ hbc.1))) (hbc.2 (Nat.le_antisymm hbc.1 (h ▸ hab.1)))⟩

theorem saysMore_asymm {a b : Directive} (h : a.saysMore b) : ¬ b.saysMore a := by
  rintro (less | ⟨same, less⟩) <;> rcases h with more | ⟨_, more⟩
  · omega
  · omega
  · omega
  · exact String.lt_irrefl _ (String.lt_trans less more)

end Directive

end MqttLink.Log
