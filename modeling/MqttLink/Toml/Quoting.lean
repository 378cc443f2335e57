import MqttLink.Toml.Quoted

/-!
# Writing quoted text

A text is written in the plainest form that needs no escape: between quotation marks, between
apostrophes, and then the same with three marks. Only a text that has no such form is escaped.
-/

namespace MqttLink.Toml

/-! ## What a text holds -/

def isControl (c : Char) : Bool := c.toNat < 0x20 || c.toNat == 0x7F

/-- A control that no form can hold as it is. -/
def needsSpelling (c : Char) : Bool := isControl c && c != '\t' && c != '\n'

/-- Whether a character occurs so many times in a row, `seen` of them just before. -/
def hasRunFrom (mark : Char) (count : Nat) : Nat → List Char → Bool
  | seen, [] => count ≤ seen
  | seen, c :: rest =>
    count ≤ seen || hasRunFrom mark count (if c = mark then seen + 1 else 0) rest

def hasRun (mark : Char) (count : Nat) (cs : List Char) : Bool := hasRunFrom mark count 0 cs

/-! ## Forms -/

inductive Form where
  | basic
  | literal
  | multiBasic
  | multiLiteral
  deriving DecidableEq, Repr

/-- The first form that holds the text as it is, or else the one that its line ends ask for. -/
def Form.of (cs : List Char) : Form :=
  let controls := cs.any needsSpelling
  let newline := cs.contains '\n'
  let escape := cs.contains '\\'
  if !controls && !escape && !newline && !hasRun '"' 1 cs then .basic
  else if !controls && !newline && !hasRun '\'' 1 cs then .literal
  else if !controls && !escape && !hasRun '"' 3 cs then .multiBasic
  else if !controls && !hasRun '\'' 3 cs then .multiLiteral
  else if newline then .multiBasic
  else .basic

/-! ## Escapes -/

def upperHex (width n : Nat) : List Char :=
  (List.range width).reverse.map fun i => Text.hexDigit ((n >>> (4 * i)) % 16)

/-- A character between quotation marks, where a quotation mark and a line end are no concern. -/
def escaped (c : Char) : List Char :=
  match c with
  | '\x08' => ['\\', 'b']
  | '\t' => ['\\', 't']
  | '\x0c' => ['\\', 'f']
  | '\r' => ['\\', 'r']
  | '\\' => ['\\', '\\']
  | _ => if needsSpelling c then ['\\', 'u'] ++ upperHex 4 c.toNat else [c]

def basicChar (c : Char) : List Char :=
  match c with
  | '"' => ['\\', '"']
  | '\n' => ['\\', 'n']
  | _ => escaped c

/-- The third of three quotation marks in a row is escaped, `seen` of them being just before. -/
def multiBasicBody : Nat → List Char → List Char
  | _, [] => []
  | seen, '"' :: rest =>
    if 2 ≤ seen then '\\' :: '"' :: multiBasicBody 0 rest else '"' :: multiBasicBody (seen + 1) rest
  | _, c :: rest => escaped c ++ multiBasicBody 0 rest

/-! ## Texts -/

/-- A text with line ends begins on a line of its own. -/
def firstNewline (cs : List Char) : List Char := if cs.contains '\n' then ['\n'] else []

def Form.write (form : Form) (cs : List Char) : List Char :=
  match form with
  | basic => '"' :: cs.flatMap basicChar ++ ['"']
  | literal => '\'' :: cs ++ ['\'']
  | multiBasic => ['"', '"', '"'] ++ firstNewline cs ++ multiBasicBody 0 cs ++ ['"', '"', '"']
  | multiLiteral => ['\'', '\'', '\''] ++ firstNewline cs ++ cs ++ ['\'', '\'', '\'']

def quote (s : String) : List Char := (Form.of s.toList).write s.toList

end MqttLink.Toml
