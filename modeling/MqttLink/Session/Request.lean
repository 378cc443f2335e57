import MqttLink.Client.Handshake
import MqttLink.Session.Error
import MqttLink.Text.Blank

/-!
# What a caller connects with

A request is what the caller says, a plan is the same with every default filled in. One plan serves
all attempts until the next request.
-/

namespace MqttLink

structure ConnectRequest where
  host : String
  port : Option String := none
  clientId : Option String := none
  username : Option String := none
  password : Option String := none
  keepAliveSecs : UInt16 := 0
  cleanSession : Bool := true
  deriving DecidableEq, Repr

structure ConnectPlan where
  host : String
  port : String
  options : ConnectOptions
  deriving DecidableEq, Repr

namespace ConnectRequest

def validate (r : ConnectRequest) : Except SessionError Unit := do
  if Text.allBlank r.host then throw (.invalidConfig "host is required")
  if r.port = some "" then throw (.invalidConfig "port cannot be empty")

def defaultPort : String := "1883"

def defaultKeepAliveSecs : UInt16 := 400

def plan (r : ConnectRequest) : ConnectPlan where
  host := r.host
  port := r.port.getD defaultPort
  options :=
    { clientId := r.clientId
      username := r.username
      password := r.password
      keepAliveSecs := if r.keepAliveSecs = 0 then defaultKeepAliveSecs else r.keepAliveSecs
      cleanSession := r.cleanSession }

end ConnectRequest

def ConnectPlan.endpoint (p : ConnectPlan) : String := p.host ++ ":" ++ p.port

end MqttLink
