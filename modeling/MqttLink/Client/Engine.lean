import MqttLink.Client.Pending
import MqttLink.Fault
import MqttLink.Message
import MqttLink.Packet.Codec

/-!
# The protocol engine

All of a client except its stream and what it has read and not yet understood: packets wait here to
be written, exchanges to be answered, messages to be collected. A fault stays for good, and nothing
works after it.
-/

namespace MqttLink

/-- Times are in milliseconds. -/
structure Engine where
  sendCapacity : Nat
  /-- Frames that are not written yet, or only in part. -/
  outgoing : Array UInt8 := #[]
  fault : Option Fault := none
  connected : Bool := false
  lastId : UInt16 := 0
  pending : Pending := ∅
  /-- Zero for none. -/
  keepAlive : Nat := 0
  lastSent : Nat
  /-- When a ping was sent that has not been answered. -/
  pingSent : Option Nat := none
  /-- Whether anybody takes the messages. -/
  listening : Bool
  /-- Messages handed over, the first one first. -/
  handed : Array Message := #[]

abbrev EngineM := EStateM Fault Engine

namespace Engine

/-! ## Faults -/

def fail {α : Type} (f : Fault) : EngineM α := fun e => .error f { e with fault := some f }

/-- What every operation asks first. -/
def ready : EngineM Unit := do
  let e ← get
  if let some f := e.fault then throw f
  if !e.connected then throw .connectNotCalled

/-! ## Sending -/

/-- Puts a packet behind the others. One without a wire form leaves everything as it was. -/
def queue (p : Packet) : EngineM Unit := fun e =>
  match p.encode with
  | none => .error .malformedPacket e
  | some frame =>
    if e.sendCapacity < e.outgoing.size + frame.length then fail .sendBufferFull e
    else .ok () { e with outgoing := e.outgoing ++ frame }

def takeId : EngineM UInt16 := do
  let e ← get
  if Pending.capacity ≤ e.pending.size then fail .sendBufferFull
  match e.pending.freeAfter e.lastId with
  | some id =>
    set { e with lastId := id }
    return id
  | none => fail .sendBufferFull

/-- Queues the packet that starts or continues an exchange. The id is free again if that fails. -/
def queueTracked (p : Packet) (id : UInt16) (awaited : Awaited) : EngineM Unit := fun e =>
  match queue p { e with pending := e.pending.insert id awaited } with
  | .ok () e => .ok () e
  | .error f e => .error f { e with pending := e.pending.erase id }

def publish (m : Message) (qos : QoS) (retain : Bool) : EngineM Unit := do
  ready
  match qos with
  | .atMostOnce => queue (.publish { m with qos, retain })
  | .atLeastOnce =>
    let id ← takeId
    queueTracked (.publish { m with qos, retain, id }) id .puback
  | .exactlyOnce =>
    let id ← takeId
    queueTracked (.publish { m with qos, retain, id }) id .pubrec

def subscribe (topic : String) (qos : QoS) : EngineM Unit := do
  ready
  let id ← takeId
  queueTracked (.subscribe id topic qos) id .suback

def unsubscribe (topic : String) : EngineM Unit := do
  ready
  let id ← takeId
  queueTracked (.unsubscribe id topic) id .unsuback

/-! ## Receiving -/

/-- Ends the step of an exchange that waits for just this answer. -/
def settle (id : UInt16) (awaited : Awaited) : EngineM Unit := do
  let e ← get
  if e.pending[id]? = some awaited then
    set { e with pending := e.pending.erase id }
  else
    fail .ackOfUnknown

def hand (m : Message) : EngineM Unit :=
  modify fun e => if e.listening then { e with handed := e.handed.push m } else e

/-- A message is handed over before it is acknowledged. -/
def takePublish (p : Publish) : EngineM Unit := do
  hand ⟨p.topic, p.payload⟩
  match p.qos with
  | .atMostOnce => return
  | .atLeastOnce => queue (.puback p.id)
  | .exactlyOnce => queue (.pubrec p.id)

def takePacket : Packet → EngineM Unit
  | .publish p => takePublish p
  | .puback id => settle id .puback
  | .pubrec id => do
    settle id .pubrec
    queueTracked (.pubrel id) id .pubcomp
  | .pubcomp id => settle id .pubcomp
  | .pubrel id => queue (.pubcomp id)
  | .suback id grants => do
    settle id .suback
    if grants.contains .refused then fail .subscribeFailed
  | .unsuback id => settle id .unsuback
  | .pingresp => modify fun e => { e with pingSent := none }
  | .disconnect => fail .connectionClosed
  | .connack .. => return
  | .connect _ | .subscribe .. | .unsubscribe .. | .pingreq => fail .malformedPacket

/-! ## Keep-alive -/

/-- A ping that stays unanswered for the whole interval is fatal; an interval without writing calls
for a ping. -/
def serviceKeepAlive (now : Nat) : EngineM Unit := do
  let e ← get
  if e.keepAlive = 0 then return
  match e.pingSent with
  | some sent => if e.keepAlive ≤ now - sent then fail .keepAliveTimeout
  | none =>
    if e.keepAlive ≤ now - e.lastSent then
      queue .pingreq
      modify fun e => { e with pingSent := some now }

end Engine

end MqttLink
