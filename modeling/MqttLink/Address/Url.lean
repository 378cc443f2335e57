import MqttLink.Address.Host

/-!
# URLs

Of a URL only the scheme, the host and the port matter here. User names, paths, queries and
fragments are read over.
-/

namespace MqttLink

structure Url where
  scheme : String
  host : Option Host := none
  port : Option UInt16 := none
  deriving DecidableEq, Repr

namespace Url

/-! ## Schemes -/

/-- How the rest of a URL is read depends on its scheme. -/
inductive Kind where
  | file
  | web (defaultPort : UInt16)
  | other
  deriving DecidableEq, Repr

def Kind.ofScheme : String → Kind
  | "file" => .file
  | "http" | "ws" => .web 80
  | "https" | "wss" => .web 443
  | "ftp" => .web 21
  | _ => .other

def isSlash (c : Char) : Bool := c == '/' || c == '\\'

/-- Where the host and the port end at the latest. -/
def Kind.endsAuthority (k : Kind) (c : Char) : Bool :=
  c == '/' || c == '?' || c == '#' || (k != .other && c == '\\')

def isSchemeChar (c : Char) : Bool := c.isAlphanum || c == '+' || c == '-' || c == '.'

/-- The scheme in small letters, and what follows the colon. -/
def takeScheme? (cs : List Char) : Option (String × List Char) :=
  match cs with
  | [] => none
  | first :: _ =>
    match cs.dropWhile isSchemeChar with
    | ':' :: rest =>
      if first.isAlpha then some (String.ofList ((cs.takeWhile isSchemeChar).map Char.toLower), rest)
      else none
    | _ => none

/-! ## Host and port -/

/-- Cuts before the first colon that is in no brackets. -/
def cutAtColon (inside : Bool) : List Char → List Char × List Char
  | [] => ([], [])
  | c :: rest =>
    if c == ':' && !inside then ([], c :: rest)
    else
      let (host, port) := cutAtColon (if c == '[' then true else if c == ']' then false else inside) rest
      (c :: host, port)

/-- The number may have any number of zeros in front. No digits at all are no port. -/
def portOf (defaultPort : Option UInt16) (cs : List Char) : Except UrlError (Option UInt16) :=
  let stop (c : Char) : Bool := isSlash c || c == '?' || c == '#'
  match (cs.takeWhile (!stop ·)).mapM Ipv4.digit? with
  | none => .error .invalidPort
  | some [] => .ok none
  | some ds =>
    let n := ds.foldl (fun n d => n * 10 + d) 0
    if 65535 < n then .error .invalidPort
    else .ok (if defaultPort = some n.toUInt16 then none else some n.toUInt16)

/-- The text before the last `@`, if there is one, and the text behind it. -/
def splitUser (cs : List Char) : Option (List Char) × List Char :=
  let behind := (cs.reverse.takeWhile (· != '@')).reverse
  if behind.length = cs.length then (none, cs)
  else (some (cs.take (cs.length - behind.length - 1)), behind)

/-- Whether a user or a password is named. -/
def namesUser (user : Option (List Char)) : Bool := user.any fun cs => cs != [] && cs != [':']

def ofAuthority (scheme : String) (kind : Kind) (cs : List Char) : Except UrlError Url := do
  let authority := cs.takeWhile (!kind.endsAuthority ·)
  let rest := cs.dropWhile (!kind.endsAuthority ·)
  let (user, place) := splitUser authority
  if user = some [] ∧ place = [] ∧ rest ≠ [] then throw .emptyHost
  let (hostText, portText) := cutAtColon false place
  if kind ≠ .other ∧ hostText = [] then throw .emptyHost
  let host ← if kind = .other then Host.opaqueOf hostText else Host.domainOf hostText
  if hostText = [] ∧ portText ≠ [] then throw .emptyHost
  let defaultPort := match kind with | .web p => some p | _ => none
  let port ← portOf defaultPort (portText.drop 1)
  if hostText = [] ∧ namesUser user then throw .emptyHost
  return { scheme, host := if hostText = [] then none else some host, port }

/-! ## Files -/

def isDriveLetter : List Char → Bool
  | [c, d] => c.isAlpha && (d == ':' || d == '|')
  | _ => false

/-- Two slashes may be followed by a host, but not by a drive. -/
def ofFile (scheme : String) (cs : List Char) : Except UrlError Url :=
  match cs with
  | a :: b :: rest =>
    if isSlash a && isSlash b then
      let hostText := rest.takeWhile (!Kind.file.endsAuthority ·)
      if hostText = [] ∨ isDriveLetter hostText then .ok { scheme }
      else (Host.domainOf hostText).map fun host => { scheme, host := some host }
    else .ok { scheme }
  | _ => .ok { scheme }

/-! ## All of it -/

def isTrimmed (c : Char) : Bool := c.toNat ≤ 0x20

def isRemoved (c : Char) : Bool := c == '\t' || c == '\n' || c == '\r'

/-- Controls and spaces count for nothing at both ends, tabs and line ends count for nothing anywhere. -/
def cleaned (s : String) : List Char :=
  (((s.toList.dropWhile isTrimmed).reverse.dropWhile isTrimmed).reverse).filter (!isRemoved ·)

def ofText (s : String) : Except UrlError Url :=
  match takeScheme? (cleaned s) with
  | none => .error .relative
  | some (scheme, rest) =>
    match Kind.ofScheme scheme, rest with
    | .file, _ => ofFile scheme rest
    | .web p, _ => ofAuthority scheme (.web p) (rest.dropWhile isSlash)
    | .other, '/' :: '/' :: rest => ofAuthority scheme .other rest
    | .other, _ => .ok { scheme }

end Url

end MqttLink
