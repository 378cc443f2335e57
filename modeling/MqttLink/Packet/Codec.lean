import MqttLink.Packet.Basic
import MqttLink.Packet.Frame

/-!
# The wire form of packets

`Packet.encode` writes what a client may send, `Packet.decode` reads what it may receive.
-/

namespace MqttLink

/-! ## Writing -/

/-- A text behind its length, which wraps at two bytes. -/
def Bytes.ofSizedText (s : String) : Bytes :=
  let text := Bytes.ofText s
  Bytes.ofUInt16 text.length.toUInt16 ++ text

def Packet.flag (b : Bool) (bit : UInt8) : UInt8 := if b then bit else 0

namespace Greeting

/-- One part of the login: nothing for an empty text. -/
def loginPart (s : String) : Bytes := if s.isEmpty then [] else Bytes.ofSizedText s

def flags (g : Greeting) : UInt8 :=
  Packet.flag g.cleanSession 0x02 |||
  match g.login with
  | none => 0
  | some (user, password) => Packet.flag (!user.isEmpty) 0x80 ||| Packet.flag (!password.isEmpty) 0x40

/-- Protocol name and level, flags, keep-alive, and then the texts. -/
def body (g : Greeting) : Bytes :=
  Bytes.ofSizedText "MQTT" ++ [0x04, g.flags] ++ Bytes.ofUInt16 g.keepAliveSecs ++
  Bytes.ofSizedText g.clientId ++
  match g.login with
  | none => []
  | some (user, password) => loginPart user ++ loginPart password

end Greeting

namespace Publish

def kind (p : Publish) : UInt8 :=
  (0x30 : UInt8) ||| Packet.flag p.retain 0x01 ||| p.qos.level <<< 1 ||| Packet.flag p.dup 0x08

/-- A message that expects an acknowledgment has a non-zero id. -/
def body? (p : Publish) : Option Bytes :=
  let topic := Bytes.ofSizedText p.topic
  if p.qos = .atMostOnce then some (topic ++ p.payload)
  else if p.id = 0 then none
  else some (topic ++ Bytes.ofUInt16 p.id ++ p.payload)

end Publish

/-- The wire form of a packet. There is none for a body that is too long, and none for the packets
that only a broker sends. -/
def Packet.encode : Packet → Option Bytes
  | connect g => Frame.write 0x10 g.body
  | publish p => p.body?.bind (Frame.write p.kind)
  | puback id => Frame.write 0x40 (Bytes.ofUInt16 id)
  | pubrec id => Frame.write 0x50 (Bytes.ofUInt16 id)
  | pubrel id => Frame.write 0x62 (Bytes.ofUInt16 id)
  | pubcomp id => Frame.write 0x70 (Bytes.ofUInt16 id)
  | subscribe id topic qos =>
    Frame.write 0x82 (Bytes.ofUInt16 id ++ Bytes.ofSizedText topic ++ [qos.level])
  | unsubscribe id topic => Frame.write 0xA2 (Bytes.ofUInt16 id ++ Bytes.ofSizedText topic)
  | pingreq => some [0xC0, 0]
  | disconnect => some [0xE0, 0]
  | connack .. | suback .. | unsuback _ | pingresp => none

/-! ## Reading -/

inductive DecodeError where
  | unknownKind (kind : UInt8)
  /-- A packet that only a client sends. -/
  | clientOnly (kind : UInt8)
  | emptyBody
  | truncated
  | badQoS
  | zeroId
  | topicNotText
  | badReply (code : UInt8)
  | badGrant (code : UInt8)
  | badSize (size : Nat)
  deriving DecidableEq, Repr

namespace Decode

def byte : Bytes → Except DecodeError (UInt8 × Bytes)
  | [] => .error .truncated
  | b :: rest => .ok (b, rest)

def number (b : Bytes) : Except DecodeError (UInt16 × Bytes) :=
  match Bytes.takeUInt16? b with
  | none => .error .truncated
  | some found => .ok found

def sizedText (b : Bytes) : Except DecodeError (String × Bytes) := do
  let (size, rest) ← number b
  if rest.length < size.toNat then throw .truncated
  match Bytes.toText? (rest.take size.toNat) with
  | none => throw .topicNotText
  | some text => return (text, rest.drop size.toNat)

def grants : Bytes → Except DecodeError (List Grant)
  | [] => .ok []
  | code :: rest =>
    match Grant.ofCode? code with
    | none => .error (.badGrant code)
    | some grant => (grants rest).map (grant :: ·)

def publish (kind : UInt8) (body : Bytes) : Except DecodeError Publish := do
  let some qos := QoS.ofLevel? ((kind &&& 0x06) >>> 1) | throw .badQoS
  let retain := kind &&& 0x01 ≠ 0
  let dup := kind &&& 0x08 ≠ 0
  let (topic, rest) ← sizedText body
  if qos = .atMostOnce then
    return { topic, payload := rest, qos, retain, dup }
  let (id, payload) ← number rest
  if id = 0 then throw .zeroId
  return { topic, payload, qos, id, retain, dup }

def connack (body : Bytes) : Except DecodeError Packet := do
  let (flags, rest) ← byte body
  let (code, _) ← byte rest
  match ConnectReply.ofCode? code with
  | none => throw (.badReply code)
  | some reply => return .connack (flags &&& 0x01 ≠ 0) reply

def suback (body : Bytes) : Except DecodeError Packet := do
  let (id, codes) ← number body
  if codes.isEmpty then throw .truncated
  return .suback id (← grants codes)

def unsuback (body : Bytes) : Except DecodeError Packet := do
  if body.length ≠ 2 then throw (.badSize body.length)
  return .unsuback (← number body).1

end Decode

/-- The packet in a frame. Outside of a message only the upper half of the kind matters. -/
def Packet.decode (kind : UInt8) (body : Bytes) : Except DecodeError Packet :=
  match (kind >>> 4).toNat with
  | 12 => .ok .pingreq
  | 13 => .ok .pingresp
  | 14 => .ok .disconnect
  | 0 | 15 => .error (.unknownKind kind)
  | n =>
    if body.isEmpty then .error .emptyBody
    else match n with
    | 2 => Decode.connack body
    | 3 => .publish <$> Decode.publish kind body
    | 4 => (.puback ·.1) <$> Decode.number body
    | 5 => (.pubrec ·.1) <$> Decode.number body
    | 6 => (.pubrel ·.1) <$> Decode.number body
    | 7 => (.pubcomp ·.1) <$> Decode.number body
    | 9 => Decode.suback body
    | 11 => Decode.unsuback body
    | _ => .error (.clientOnly kind)

end MqttLink
