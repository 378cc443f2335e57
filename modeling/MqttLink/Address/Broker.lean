import MqttLink.Address.Url

/-!
# Where a broker is

A URL names a broker if its scheme is MQTT over plain TCP and it has a host.
-/

namespace MqttLink

structure Endpoint where
  host : String
  port : Option String := none
  deriving DecidableEq, Repr

inductive BrokerUrlError where
  | url (e : UrlError)
  | encrypted
  | scheme (name : String)
  | noHost
  deriving DecidableEq, Repr

def BrokerUrlError.message : BrokerUrlError → String
  | url e => e.message
  | encrypted => "TLS is not supported"
  | scheme name => "unsupported scheme '" ++ name ++ "'"
  | noHost => "missing host"

namespace Endpoint

def ofUrl (u : Url) : Except BrokerUrlError Endpoint :=
  if u.scheme = "mqtt" ∨ u.scheme = "tcp" then
    match u.host with
    | none => .error .noHost
    | some host => .ok { host := host.text, port := u.port.map toString }
  else if u.scheme = "mqtts" ∨ u.scheme = "ssl" then .error .encrypted
  else .error (.scheme u.scheme)

def ofText (s : String) : Except BrokerUrlError Endpoint :=
  match Url.ofText s with
  | .error e => .error (.url e)
  | .ok u => ofUrl u

end Endpoint

end MqttLink
