import MqttLink.Text.Percent

/-!
# IPv4 addresses

Two readings: the strict one, four decimal numbers, and the one of addresses on the web, where a
number may be octal or hexadecimal and the last one fills what is left.
-/

namespace MqttLink.Ipv4

/-! ## Strict -/

def digit? (c : Char) : Option Nat := if c.isDigit then some (c.toNat - 48) else none

/-- One to three digits up to 255, without a zero in front. -/
def byte? (cs : List Char) : Option UInt8 :=
  match cs with
  | [] => none
  | '0' :: _ :: _ => none
  | _ =>
    match cs.mapM digit? with
    | none => none
    | some ds =>
      let n := ds.foldl (fun n d => n * 10 + d) 0
      if n ≤ 255 then some n.toUInt8 else none

def quad? (s : String) : Option (UInt8 × UInt8 × UInt8 × UInt8) :=
  match s.splitOn "." with
  | [a, b, c, d] => do return (← byte? a.toList, ← byte? b.toList, ← byte? c.toList, ← byte? d.toList)
  | _ => none

def text (a b c d : UInt8) : String :=
  ".".intercalate [toString a, toString b, toString c, toString d]

/-! ## Lenient -/

def inBase (base : Nat) (cs : List Char) : Option Nat :=
  cs.foldlM (fun n c => (hexValue? c).bind fun d => if d < base then some (n * base + d) else none) 0
where hexValue? := Text.hexValue?

/-- The base is told by what the number begins with. Nothing after that is zero. -/
def number? (s : String) : Option Nat :=
  match s.toList with
  | [] => none
  | '0' :: 'x' :: rest | '0' :: 'X' :: rest => inBase 16 rest
  | '0' :: c :: rest => inBase 8 (c :: rest)
  | cs => inBase 10 cs

/-- The parts between the dots. A dot at the end is allowed. -/
def parts (s : String) : List String :=
  let ps := s.splitOn "."
  if ps.getLast? = some "" ∧ 1 < ps.length then ps.dropLast else ps

/-- A host like this is an address or nothing. -/
def looksNumeric (s : String) : Bool :=
  (parts s).getLast?.any fun p => (!p.isEmpty && p.all Char.isDigit) || (number? p).isSome

/-- All numbers but the last are bytes, and the last fills the rest. -/
def isLenient (s : String) : Bool :=
  match (parts s).mapM number? with
  | none => false
  | some ns =>
    match ns.reverse with
    | [] => false
    | last :: others =>
      ns.length ≤ 4 && last < 1 <<< (8 * (5 - ns.length)) && others.all (· ≤ 255)

end MqttLink.Ipv4
