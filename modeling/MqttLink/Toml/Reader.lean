import MqttLink.Toml.Number
import MqttLink.Toml.Quoted
import MqttLink.Toml.Tree

/-!
# Reading statements

Values nest, and keys are paths, no deeper than a fixed limit, so reading needs no more than that
many levels. A list is read item by item, and every item but the last takes at least its comma.
-/

namespace MqttLink.Toml

/-- The deepest nesting, and the longest path. -/
def deepest : Nat := 79

/-! ## Keys -/

def isBare (c : Char) : Bool := c.isAlphanum || c == '_' || c == '-'

def takeBare? (cs : List Char) : Option (String × List Char) :=
  match cs.takeWhile isBare with
  | [] => none
  | word => some (String.ofList word, cs.dropWhile isBare)

/-- A key is a bare word or a text on one line. -/
def takeKey? (cs : List Char) : Option (String × List Char) :=
  match cs with
  | '"' :: rest => (takeBasic? rest).map fun (s, rest) => (String.ofList s, rest)
  | '\'' :: rest => (takeLiteral? rest).map fun (s, rest) => (String.ofList s, rest)
  | _ => takeBare? cs

/-- Keys with points between them, at most so many. -/
def takeKeys? : Nat → Reader (List String)
  | 0, _ => none
  | limit + 1, cs => do
    let (key, rest) ← takeKey? (skipSpace cs)
    match skipSpace rest with
    | '.' :: rest => do
      let (keys, rest) ← takeKeys? limit rest
      return (key :: keys, rest)
    | rest => return ([key], rest)

def takePath? (cs : List Char) : Option (Path × List Char) := do
  let (keys, rest) ← takeKeys? deepest cs
  let key ← keys.getLast?
  return (⟨keys.dropLast, key⟩, rest)

/-! ## Lists -/

/-- Items with commas between them up to the closing character, which is the next one at the latest
behind the last. `fuel` bounds the number of items. -/
def takeItems? {α : Type} (item : Reader α) (gap : List Char → List Char) (close : Char)
    (trailingComma : Bool) : Nat → Reader (List α)
  | 0, _ => none
  | fuel + 1, cs => do
    let (a, rest) ← item (gap cs)
    match gap rest with
    | c :: rest =>
      if c = close then return ([a], rest)
      else if c = ',' then
        match gap rest with
        | d :: after =>
          if d = close ∧ trailingComma then return ([a], after)
          else consTo a (takeItems? item gap close trailingComma fuel rest)
        | [] => none
      else none
    | [] => none

/-- What stands between two brackets, behind the opening one. -/
def takeList? {α : Type} (item : Reader α) (gap : List Char → List Char) (close : Char)
    (trailingComma : Bool) (cs : List Char) : Option (List α × List Char) :=
  match gap cs with
  | [] => none
  | c :: rest =>
    if c = close then some ([], rest)
    else takeItems? item gap close trailingComma cs.length cs

/-! ## Values -/

def takeScalar? (cs : List Char) : Option (Value × List Char) :=
  match cs with
  | 't' :: 'r' :: 'u' :: 'e' :: rest => some (.boolean true, rest)
  | 'f' :: 'a' :: 'l' :: 's' :: 'e' :: rest => some (.boolean false, rest)
  | '"' :: _ | '\'' :: _ => (takeQuoted? cs).map fun (s, rest) => (.text s, rest)
  | _ => takeNumber? cs

def takeAssignment? (value : Reader Value) (cs : List Char) :
    Option ((Path × Value) × List Char) := do
  let (path, rest) ← takePath? cs
  match rest with
  | '=' :: rest =>
    let (v, rest) ← value (skipSpace rest)
    return ((path, v), rest)
  | _ => none

/-- A table within braces is on one line. -/
def takeInline? (value : Reader Value) (cs : List Char) : Option (Value × List Char) := do
  let (assignments, rest) ← takeList? (takeAssignment? value) skipSpace '\x7d' false cs
  let tree ← Tree.ofAssignments? assignments
  return (.table (Tree.toFields tree), rest)

def takeValue? : Nat → Reader Value
  | levels + 1, '[' :: rest =>
    (takeList? (takeValue? levels) skipGap ']' true rest).map fun (vs, rest) => (.array vs, rest)
  | levels + 1, '\x7b' :: rest => takeInline? (takeValue? levels) rest
  | _, cs => takeScalar? cs

/-! ## Statements -/

/-- A path between brackets. -/
def takeHeader? (cs : List Char) : Option (Statement × List Char) :=
  match cs with
  | '[' :: '[' :: rest =>
    match takePath? rest with
    | some (path, ']' :: ']' :: rest) => some (.element path, rest)
    | _ => none
  | '[' :: rest =>
    match takePath? rest with
    | some (path, ']' :: rest) => some (.table path, rest)
    | _ => none
  | _ => none

def takeStatement? (cs : List Char) : Option (Statement × List Char) :=
  match cs with
  | '[' :: _ => takeHeader? cs
  | _ => (takeAssignment? (takeValue? deepest) cs).map fun ((path, v), rest) => (.assign path v, rest)

/-- The statements of a text, each at the beginning of a line. `fuel` bounds the number of lines. -/
def takeStatements? : Nat → List Char → Option (List Statement)
  | 0, _ => none
  | fuel + 1, cs =>
    match skipSpace cs with
    | [] => some []
    | line =>
      match takeLineEnd? line with
      | some rest => takeStatements? fuel rest
      | none => do
        let (s, rest) ← takeStatement? line
        let rest ← takeLineEnd? rest
        return s :: (← takeStatements? fuel rest)

def byteOrderMark : Char := Char.ofNat 0xFEFF

def statements? (s : String) : Option (List Statement) :=
  let cs := s.toList
  let cs := if cs.head? = some byteOrderMark then cs.drop 1 else cs
  takeStatements? (cs.length + 1) cs

/-- The table that a document describes. -/
def document? (s : String) : Option (List (String × Value)) :=
  ((statements? s).bind Tree.ofStatements?).map Tree.toFields

end MqttLink.Toml
