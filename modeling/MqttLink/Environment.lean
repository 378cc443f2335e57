import MqttLink.Bytes

/-!
# Environment entries
-/

namespace MqttLink

structure Environment where
  entries : List (String × Bytes) := []
  deriving DecidableEq, Repr

namespace Environment

/-- A name that no variable can have. -/
def isImpossible (name : String) : Bool :=
  name.isEmpty || name.toList.any fun c => c == '=' || c == '\x00'

def getBytes? (e : Environment) (name : String) : Option Bytes :=
  if isImpossible name then none else e.entries.lookup name

/-- A value that is no text counts as missing. -/
def get? (e : Environment) (name : String) : Option String := (e.getBytes? name).bind Bytes.toText?

def set (e : Environment) (name value : String) : Environment :=
  { e with entries := (name, Bytes.ofText value) :: e.entries }

/-- Sets a variable that is not there yet. -/
def setDefault (e : Environment) (name value : String) : Environment :=
  if (e.getBytes? name).isSome then e else e.set name value

/-! ## Blocks -/

/-- One entry, which is cut at its first equals sign. A name that is no text cannot be asked for. -/
def entryOf? (b : Bytes) : Option (String × Bytes) :=
  match b.dropWhile (· != 0x3D) with
  | [] => none
  | _ :: value => (Bytes.toText? (b.takeWhile (· != 0x3D))).map (·, value)

/-- The entries of a block, each of which ends with a zero byte. -/
def ofBlock (b : Bytes) : Environment where
  entries := (b.splitOn 0).filterMap entryOf?

theorem get?_set {e : Environment} {name value : String} (h : isImpossible name = false) :
    (e.set name value).get? name = some value := by
  simp [get?, getBytes?, set, h, Bytes.toText?_ofText]

end Environment

end MqttLink
