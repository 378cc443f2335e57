import MqttLink.Bytes

/-!
# Packets

The packets of MQTT 3.1.1 that a client sends or may receive.
-/

namespace MqttLink

/-! ## Quality of service -/

/-- How hard both sides try to deliver a message. -/
inductive QoS where
  | atMostOnce
  | atLeastOnce
  | exactlyOnce
  deriving DecidableEq, Repr, Inhabited

namespace QoS

def level : QoS → UInt8
  | atMostOnce => 0
  | atLeastOnce => 1
  | exactlyOnce => 2

def ofLevel? : UInt8 → Option QoS
  | 0 => some atMostOnce
  | 1 => some atLeastOnce
  | 2 => some exactlyOnce
  | _ => none

/-- A level that does not exist asks for the weakest one. -/
def ofLevel (n : UInt8) : QoS := (ofLevel? n).getD atMostOnce

@[simp] theorem ofLevel?_level (q : QoS) : ofLevel? q.level = some q := by cases q <;> rfl

@[simp] theorem ofLevel_level (q : QoS) : ofLevel q.level = q := by cases q <;> rfl

end QoS

/-! ## Parts of packets -/

/-- What a client says about itself when it connects. -/
structure Greeting where
  clientId : String
  keepAliveSecs : UInt16
  cleanSession : Bool
  /-- User name and password. An empty one is left out of the packet. -/
  login : Option (String × String)
  deriving DecidableEq, Repr

/-- The broker's verdict on a greeting. -/
inductive ConnectReply where
  | accepted
  | unacceptableVersion
  | identifierRejected
  | serverUnavailable
  | badCredentials
  | notAuthorized
  deriving DecidableEq, Repr

def ConnectReply.ofCode? : UInt8 → Option ConnectReply
  | 0 => some accepted
  | 1 => some unacceptableVersion
  | 2 => some identifierRejected
  | 3 => some serverUnavailable
  | 4 => some badCredentials
  | 5 => some notAuthorized
  | _ => none

/-- A message with its delivery data. The id is zero exactly when no acknowledgment is due. -/
structure Publish where
  topic : String
  payload : Bytes
  qos : QoS
  id : UInt16 := 0
  retain : Bool := false
  dup : Bool := false
  deriving DecidableEq, Repr

/-- The broker's verdict on one requested subscription. -/
inductive Grant where
  | granted (qos : QoS)
  | refused
  deriving DecidableEq, Repr

def Grant.ofCode? (code : UInt8) : Option Grant :=
  if code = 128 then some .refused else (QoS.ofLevel? code).map .granted

/-! ## Packets -/

inductive Packet where
  | connect (greeting : Greeting)
  | connack (sessionPresent : Bool) (reply : ConnectReply)
  | publish (message : Publish)
  | puback (id : UInt16)
  | pubrec (id : UInt16)
  | pubrel (id : UInt16)
  | pubcomp (id : UInt16)
  | subscribe (id : UInt16) (topic : String) (qos : QoS)
  | suback (id : UInt16) (grants : List Grant)
  | unsubscribe (id : UInt16) (topic : String)
  | unsuback (id : UInt16)
  | pingreq
  | pingresp
  | disconnect
  deriving DecidableEq, Repr

end MqttLink
