/-!
# TOML values and statements

A document is a sequence of statements, each on lines of its own. A reader takes something from the
beginning of a text and returns what follows.
-/

namespace MqttLink.Toml

inductive Value where
  | text (s : String)
  | integer (n : Int)
  | boolean (b : Bool)
  /-- A number with a point or an exponent, an infinity or no number, as it is spelled. -/
  | decimal (spelling : String)
  /-- A date, a time or both, as it is spelled. -/
  | moment (spelling : String)
  | array (items : List Value)
  | table (fields : List (String × Value))

/-- The last key of a path stands apart from those that lead to it. -/
structure Path where
  parents : List String := []
  key : String
  deriving DecidableEq, Repr

inductive Statement where
  | assign (path : Path) (value : Value)
  /-- What follows belongs to this table. -/
  | table (path : Path)
  /-- What follows belongs to a new table at the end of this list. -/
  | element (path : Path)

/-- Takes an `α` from the beginning of a text. -/
abbrev Reader (α : Type) := List Char → Option (α × List Char)

/-- What a reader took, as it is spelled. -/
def spelling (before after : List Char) : String :=
  String.ofList (before.take (before.length - after.length))

end MqttLink.Toml
