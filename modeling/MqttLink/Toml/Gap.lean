import MqttLink.Toml.Value

/-!
# Between the words

Spaces and tabs separate words on a line. A comment reaches to the end of its line.
-/

namespace MqttLink.Toml

def isSpace (c : Char) : Bool := c == ' ' || c == '\t'

/-- A tab, or anything but a control. -/
def isPrintable (c : Char) : Bool := c == '\t' || (0x20 ≤ c.toNat && c.toNat != 0x7F)

def skipSpace (cs : List Char) : List Char := cs.dropWhile isSpace

def takeNewline? : List Char → Option (List Char)
  | '\n' :: rest => some rest
  | '\r' :: '\n' :: rest => some rest
  | _ => none

def skipComment : List Char → List Char
  | '#' :: rest => rest.dropWhile isPrintable
  | cs => cs

/-- The end of a line, perhaps behind a comment, or the end of the text. -/
def takeLineEnd? (cs : List Char) : Option (List Char) :=
  match skipComment (skipSpace cs) with
  | [] => some []
  | rest => takeNewline? rest

/-- Spaces and line ends. -/
def skipBlankLines : List Char → List Char
  | '\r' :: '\n' :: rest => skipBlankLines rest
  | c :: rest => if isSpace c || c == '\n' then skipBlankLines rest else c :: rest
  | [] => []

/-- Everything that may stand between the items of a list: spaces, line ends and comments. The flag
says whether a comment is under way. -/
def skipGapFrom : Bool → List Char → List Char
  | _, [] => []
  | _, '\n' :: rest => skipGapFrom false rest
  | _, '\r' :: '\n' :: rest => skipGapFrom false rest
  | true, c :: rest => if isPrintable c then skipGapFrom true rest else c :: rest
  | false, c :: rest =>
    if isSpace c then skipGapFrom false rest
    else if c == '#' then skipGapFrom true rest
    else c :: rest

def skipGap (cs : List Char) : List Char := skipGapFrom false cs

end MqttLink.Toml
