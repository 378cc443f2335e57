import MqttLink.Address.Domain
import MqttLink.Address.Ipv4
import MqttLink.Address.Ipv6

/-!
# Hosts of a URL

In most schemes a host is an opaque name or an IPv6 address in brackets. In the schemes of the web a
name is a domain, which is decoded, checked and perhaps an IPv4 address.
-/

namespace MqttLink

inductive UrlError where
  | relative
  | invalidPort
  | emptyHost
  | invalidIpv6
  | invalidIpv4
  | invalidCharacter
  | invalidDomain
  deriving DecidableEq, Repr

def UrlError.message : UrlError → String
  | relative => "relative URL without a base"
  | invalidPort => "invalid port number"
  | emptyHost => "empty host"
  | invalidIpv6 => "invalid IPv6 address"
  | invalidIpv4 => "invalid IPv4 address"
  | invalidCharacter => "invalid domain character"
  | invalidDomain => "invalid international domain name"

inductive Host where
  | name (s : String)
  | ipv6 (a : Ipv6)
  deriving DecidableEq, Repr

namespace Host

def text : Host → String
  | name s => s
  | ipv6 a => a.text

/-- What stands between the brackets, if the first of them is there. -/
def bracketed? (cs : List Char) : Option (Except UrlError Host) :=
  match cs with
  | '[' :: rest =>
    some (match rest.getLast?, Ipv6.ofText? (String.ofList rest.dropLast) with
      | some ']', some a => .ok (ipv6 a)
      | _, _ => .error .invalidIpv6)
  | _ => none

/-! ## Opaque names -/

def forbidden : List Char :=
  ['\x00', '\t', '\n', '\r', ' ', '#', '/', ':', '<', '>', '?', '@', '[', '\\', ']', '^', '|']

/-- The case is kept, and what is not plain ASCII is written in percent encoding. -/
def opaqueOf (cs : List Char) : Except UrlError Host :=
  match bracketed? cs with
  | some result => result
  | none =>
    if cs.any (forbidden.contains ·) then .error .invalidCharacter
    else .ok (name (String.ofList (Text.percentEncode cs)))

/-! ## Domains -/

/-- A domain that ends in a number is an IPv4 address. -/
def ofDomain (domain : String) : Except UrlError Host :=
  if domain.isEmpty then .error .emptyHost
  else if Ipv4.looksNumeric domain ∧ !Ipv4.isLenient domain then .error .invalidIpv4
  else .ok (name domain)

def domainOf (cs : List Char) : Except UrlError Host :=
  match bracketed? cs with
  | some result => result
  | none =>
    match (Bytes.toText? (Text.percentDecode cs)).bind fun text => Domain.read? text.toList with
    | none => .error .invalidDomain
    | some domain => ofDomain domain

end Host

end MqttLink
