import MqttLink.Log.Entry
import MqttLink.Text.Percent

/-!
# Entries as lines

For a reader of JSON an entry is one object, for people it is one line of words.
-/

namespace MqttLink.Log

/-! ## JSON texts -/

/-- A quotation mark, a backslash and a control are escaped, and all else is itself. -/
def jsonChar (c : Char) : List Char :=
  match c with
  | '"' => ['\\', '"']
  | '\\' => ['\\', '\\']
  | '\n' => ['\\', 'n']
  | '\r' => ['\\', 'r']
  | '\t' => ['\\', 't']
  | '\x08' => ['\\', 'b']
  | '\x0c' => ['\\', 'f']
  | _ =>
    if c.toNat < 0x20 then
      ['\\', 'u', '0', '0', Text.hexDigit (c.toNat / 16), Text.hexDigit (c.toNat % 16)]
    else [c]

def jsonText (s : String) : String := String.ofList ('"' :: s.toList.flatMap jsonChar ++ ['"'])

def jsonObject (fields : List (String × String)) : String :=
  "\x7b" ++ ",".intercalate (fields.map fun (key, value) => jsonText key ++ ":" ++ value) ++ "\x7d"

/-! ## Lines -/

namespace Entry

def toJson (time : String) (e : Entry) : String :=
  jsonObject
    [("timestamp", jsonText time),
     ("level", jsonText e.level.name),
     ("fields", jsonObject [("message", jsonText e.message)]),
     ("target", jsonText e.source.path)]

/-- Levels are flush right in five columns. -/
def toWords (time : String) (e : Entry) : List String :=
  [time, "".pushn ' ' (5 - e.level.name.length) ++ e.level.name]

def toLine (format : Format) (time : String) (e : Entry) : String :=
  match format with
  | .json => e.toJson time
  | .pretty => " ".intercalate (e.toWords time ++ [e.source.path ++ ":", e.message])
  | .compact => " ".intercalate (e.toWords time ++ [e.message])

end Entry

end MqttLink.Log
