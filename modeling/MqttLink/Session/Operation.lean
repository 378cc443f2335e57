import MqttLink.Session.Basic

/-!
# Operations on a connected session

Each is one step: it either is refused, or calls the client exactly once.
-/

namespace MqttLink

inductive Operation where
  | publish (message : Message) (qos : QoS) (retain : Bool)
  | subscribe (topic : String) (qos : QoS)
  | unsubscribe (topic : String)
  deriving DecidableEq, Repr

namespace Operation

def topic : Operation → String
  | publish message .. => message.topic
  | subscribe topic _ => topic
  | unsubscribe topic => topic

def failure : Operation → String
  | publish .. => "MQTT publish failed"
  | subscribe .. => "MQTT subscribe failed"
  | unsubscribe _ => "MQTT unsubscribe failed"

variable {ω κ δ φ : Type}

def run (b : Backend ω κ δ φ) : Operation → κ → ω → Except Fault Unit × κ × ω
  | publish message qos retain => b.publish message qos retain
  | subscribe topic qos => b.subscribe topic qos
  | unsubscribe topic => b.unsubscribe topic

/-- What a session remembers after success. -/
def remember : Operation → List (String × QoS) → List (String × QoS)
  | publish .. => id
  | subscribe topic qos => State.remembered topic qos
  | unsubscribe topic => State.forgotten topic

end Operation

namespace Session

variable {ω κ δ φ : Type} (b : Backend ω κ δ φ)

/-- A failure costs the connection only if the client will not recover from it. -/
def operate (op : Operation) (x : Session ω κ δ φ) :
    Except SessionError Unit × Session ω κ δ φ :=
  match x.state.status, x.state.client with
  | .connected, some client =>
    if op.topic.isEmpty then (.error .emptyTopic, x)
    else
      let (result, client, outside) := op.run b client x.outside
      let x := { x with outside, state := { x.state with client := some client } }
      match result with
      | .ok () =>
        let subscriptions := op.remember x.state.subscriptions
        (.ok (), { x with state := { x.state with subscriptions } })
      | .error f =>
        let e := SessionError.protocol f op.failure
        match b.fault client with
        | some _ => (.error e, x.act (State.markLost b e))
        | none => (.error e, x.update (State.recordError b e))
  | status, _ => (.error (.notConnected status), x)

end Session

end MqttLink
