/-!
# Names of levels and of formats

Both are matched without regard to case, and a name that is none of them stands for the default.
Only an ASCII letter folds to one of the letters that occur, so folding those is enough.
-/

namespace MqttLink.Log

inductive Level where
  | error
  | warn
  | info
  | debug
  | trace
  deriving DecidableEq, Repr

namespace Level

/-- The higher, the more there is of it. -/
def rank : Level → Nat
  | error => 1
  | warn => 2
  | info => 3
  | debug => 4
  | trace => 5

def name : Level → String
  | error => "ERROR"
  | warn => "WARN"
  | info => "INFO"
  | debug => "DEBUG"
  | trace => "TRACE"

def all : List Level := [error, warn, info, debug, trace]

def ofName? (s : String) : Option Level := all.find? (·.name == s.toUpper)

def ofName (s : String) : Level := (ofName? s).getD info

theorem ofName?_name (l : Level) : ofName? l.name = some l := by cases l <;> decide +kernel

end Level

inductive Format where
  | json
  | pretty
  | compact
  deriving DecidableEq, Repr

namespace Format

def name : Format → String
  | json => "json"
  | pretty => "pretty"
  | compact => "compact"

def ofName (s : String) : Format :=
  ([json, pretty, compact].find? (·.name == s.toLower)).getD json

theorem ofName_name (f : Format) : ofName f.name = f := by cases f <;> decide +kernel

end Format

end MqttLink.Log
