import MqttLink.Toml.Quoting
import MqttLink.Toml.Reader

/-!
# Writing statements

One statement is one line, unless a text in it has line ends. A header has a blank line before it,
unless it comes first.
-/

namespace MqttLink.Toml

def writeKey (key : String) : List Char :=
  if !key.isEmpty && key.toList.all isBare then key.toList else Form.basic.write key.toList

def writePath (p : Path) : List Char :=
  p.parents.flatMap (fun key => writeKey key ++ ['.']) ++ writeKey p.key

mutual

def Value.write : Value → List Char
  | .text s => quote s
  | .integer n => (toString n).toList
  | .boolean b => if b then ['t', 'r', 'u', 'e'] else ['f', 'a', 'l', 's', 'e']
  | .decimal spelling | .moment spelling => spelling.toList
  | .array items => '[' :: writeItems items
  | .table fields => '\x7b' :: writeFields fields

/-- Items and the closing bracket. -/
def writeItems : List Value → List Char
  | [] => [']']
  | [v] => v.write ++ [']']
  | v :: rest => v.write ++ [',', ' '] ++ writeItems rest

/-- Fields and the closing brace. -/
def writeFields : List (String × Value) → List Char
  | [] => ['\x7d']
  | [(key, v)] => writeKey key ++ [' ', '=', ' '] ++ v.write ++ ['\x7d']
  | (key, v) :: rest => writeKey key ++ [' ', '=', ' '] ++ v.write ++ [',', ' '] ++ writeFields rest

end

namespace Statement

def isHeader : Statement → Bool
  | assign .. => false
  | table _ | element _ => true

def write : Statement → List Char
  | assign path v => writePath path ++ [' ', '=', ' '] ++ v.write ++ ['\n']
  | table path => '[' :: writePath path ++ [']', '\n']
  | element path => '[' :: '[' :: writePath path ++ [']', ']', '\n']

/-- A statement that is not the first. -/
def writeNext (s : Statement) : List Char := (if s.isHeader then ['\n'] else []) ++ s.write

end Statement

def writeStatements : List Statement → List Char
  | [] => []
  | s :: rest => s.write ++ rest.flatMap Statement.writeNext

end MqttLink.Toml
