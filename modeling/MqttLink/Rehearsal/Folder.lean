import MqttLink.Config.Reader

/-!
# A folder of files

The paths of the files imply the folders that they are in. A path is walked name by name, and each
name is looked up in the folder where the walk stands.
-/

namespace MqttLink

structure Folder where
  files : List (String × Bytes) := []
  /-- Folders that no file implies. -/
  folders : List String := []
  deriving DecidableEq, Repr

namespace Folder

/-- The names on the way to a file. -/
def names (path : String) : List String := (path.splitOn "/").filter fun s => s != "" && s != "."

/-- Some name follows. -/
def isAbove (above below : List String) : Bool :=
  above.isPrefixOf below && above.length < below.length

/-! ## Walking -/

inductive Place where
  /-- The names that lead here from the top. -/
  | folder (way : List String)
  /-- The same, from the top of the system. -/
  | outside (way : List String)
  | file (content : Bytes)
  deriving DecidableEq, Repr

/-- What is there: a folder, or a file with its content. -/
def find? (f : Folder) (way : List String) : Option (Option Bytes) :=
  match (f.files.map fun (path, content) => (names path, content)).lookup way with
  | some content => some (some content)
  | none =>
    if f.files.any (isAbove way <| names ·.1) || f.folders.contains ("/".intercalate way) then
      some none
    else none

def maxNameSize : Nat := 255

/-- What a name in a folder stands for. -/
def look (f : Folder) (place : List String → Place) (way : List String) (name : String) :
    Except ReadError Place :=
  if maxNameSize < name.utf8ByteSize then .error .nameTooLong
  else match f.find? (way ++ [name]) with
    | none => .error .missing
    | some none => .ok (place (way ++ [name]))
    | some (some content) => .ok (.file content)

/-- The part of every system on which a path may count. -/
def system : Folder where
  files := [("dev/null", [])]
  folders := ["bin", "boot", "etc", "home", "lib", "media", "mnt", "opt", "proc", "root", "run", "sbin",
    "srv", "sys", "tmp", "usr", "var"]

/-- A folder is made where the system keeps what does not last. -/
def home : List String := ["tmp"]

/-- One name further. Above the top of the system is the top itself. -/
def enter (f : Folder) (place : Place) (name : String) : Except ReadError Place :=
  match place, name with
  | .file _, _ => .error .notDirectory
  | place, "" | place, "." => .ok place
  | .folder [], ".." => .ok (.outside home)
  | .folder way, ".." => .ok (.folder way.dropLast)
  | .outside way, ".." => .ok (.outside way.dropLast)
  | .folder way, name => f.look .folder way name
  | .outside way, name => system.look .outside way name

/-- A path that begins with a slash begins at the top of the system. -/
def placeOf (f : Folder) (path : String) : Except ReadError Place :=
  (path.splitOn "/").foldlM f.enter (if path.startsWith "/" then .outside [] else .folder [])

/-! ## Reading -/

/-- The bytes of a path, one of them for its end. -/
def maxPathSize : Nat := 4096

def read (f : Folder) (path : String) : Config.FileContent :=
  if path.isEmpty then .error .missing
  else if maxPathSize ≤ path.utf8ByteSize then .error .nameTooLong
  else match f.placeOf path with
    | .error e => .error e
    | .ok (.file content) => .ok content
    | .ok _ => .error .directory

end Folder

end MqttLink
