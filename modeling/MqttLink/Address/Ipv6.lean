import MqttLink.Address.Ipv4

/-!
# IPv6 addresses

Eight groups of sixteen bits. In text, `::` stands for one or more groups of zeros, and the last two
groups may be written as an IPv4 address.
-/

namespace MqttLink

structure Ipv6 where
  groups : List UInt16
  length_groups : groups.length = 8
  deriving DecidableEq, Repr

namespace Ipv6

/-! ## Reading -/

def group? (s : String) : Option UInt16 :=
  let cs := s.toList
  if cs.isEmpty ∨ 4 < cs.length then none
  else (cs.mapM Text.hexValue?).map fun ds => (ds.foldl (fun n d => n * 16 + d) 0).toUInt16

/-- The two groups that an IPv4 address makes. -/
def quadGroups? (s : String) : Option (List UInt16) :=
  (Ipv4.quad? s).map fun (a, b, c, d) => [Bytes.joinUInt16 a b, Bytes.joinUInt16 c d]

/-- The groups of the parts between the colons. -/
def groupsOf? : List String → Option (List UInt16)
  | [] => some []
  | [last] =>
    match group? last with
    | some g => some [g]
    | none => quadGroups? last
  | part :: rest => do return (← group? part) :: (← groupsOf? rest)

/-- One side of `::` may be empty. -/
def side? (s : String) : Option (List UInt16) := if s.isEmpty then some [] else groupsOf? (s.splitOn ":")

def ofGroups? (groups : List UInt16) : Option Ipv6 :=
  if h : groups.length = 8 then some ⟨groups, h⟩ else none

def ofText? (s : String) : Option Ipv6 :=
  match s.splitOn "::" with
  | [all] => (groupsOf? (all.splitOn ":")).bind ofGroups?
  | [left, right] => do
    let left ← (left.splitOn ":").mapM group? <|> (if left.isEmpty then some [] else none)
    let right ← side? right
    if left.length + right.length ≤ 7 then
      ofGroups? (left ++ List.replicate (8 - left.length - right.length) 0 ++ right)
    else none
  | _ => none

/-! ## Writing -/

def groupText (g : UInt16) : String := String.ofList (Nat.toDigits 16 g.toNat)

/-- How many groups of zeros follow one another from the beginning. -/
def leadingZeros (gs : List UInt16) : Nat := (gs.takeWhile (· == 0)).length

/-- Where the first of the longest runs of zeros begins. -/
def longestRun (gs : List UInt16) : Nat :=
  (List.range gs.length).foldl
    (fun best i => if leadingZeros (gs.drop best) < leadingZeros (gs.drop i) then i else best) 0

def joined (gs : List UInt16) : String := ":".intercalate (gs.map groupText)

def low (g : UInt16) : UInt8 := g.toUInt8
def high (g : UInt16) : UInt8 := (g >>> 8).toUInt8

/-- The longest run of zeros is shortened if it has two groups or more. An IPv4 address within is
written as one. -/
def text (a : Ipv6) : String :=
  match a.groups with
  | [0, 0, 0, 0, 0, 0xffff, g, h] => "::ffff:" ++ Ipv4.text (high g) (low g) (high h) (low h)
  | gs =>
    let start := longestRun gs
    let run := leadingZeros (gs.drop start)
    if 1 < run then joined (gs.take start) ++ "::" ++ joined (gs.drop (start + run)) else joined gs

end Ipv6

end MqttLink
