import MqttLink.Client.Inbound
import MqttLink.Stream

/-!
# Clients

A client speaks for one end of a byte stream. The stream is not part of it: every operation that
needs one gets it and gives it back, so that the far side can act between two operations.
-/

namespace MqttLink

structure Client where
  engine : Engine
  recvCapacity : Nat
  /-- Bytes read that do not make a whole frame yet. -/
  received : Bytes := []

namespace Client

/-- A client that has not connected yet. -/
def new (sendCapacity recvCapacity : Nat) (listening : Bool) (now : Nat) : Client :=
  { engine := { sendCapacity, lastSent := now, listening }, recvCapacity }

def fault (c : Client) : Option Fault := c.engine.fault

/-- The number of exchanges under way. -/
def inflight (c : Client) : Nat := c.engine.pending.size

def fail (c : Client) (f : Fault) : Client := { c with engine := { c.engine with fault := some f } }

/-- Takes the messages that have been handed over since the last time. -/
def collect (c : Client) : List Message × Client :=
  (c.engine.handed.toList, { c with engine := { c.engine with handed := #[] } })

/-! ## Operations that only queue -/

/-- An operation of the engine as one of the client. -/
def lift (op : EngineM Unit) (c : Client) : Except Fault Unit × Client :=
  match op c.engine with
  | .ok () engine => (.ok (), { c with engine })
  | .error f engine => (.error f, { c with engine })

def publish (m : Message) (qos : QoS) (retain : Bool) : Client → Except Fault Unit × Client :=
  lift (Engine.publish m qos retain)

def subscribe (topic : String) (qos : QoS) : Client → Except Fault Unit × Client :=
  lift (Engine.subscribe topic qos)

def unsubscribe (topic : String) : Client → Except Fault Unit × Client :=
  lift (Engine.unsubscribe topic)

/-! ## Exchanging bytes without waiting -/

variable {σ : Type} [ByteStream σ]

/-- Reads and takes whatever there is. What arrived before the end of the stream still counts. -/
def takeInput (c : Client) (s : σ) : Except Fault Unit × Client × σ :=
  match c.engine.takeAll c.recvCapacity c.received with
  | (.error f, received, engine) => (.error f, { c with engine, received }, s)
  | (.ok (), received, engine) =>
    match _read : ByteStream.read s with
    | (.data bytes, s') => takeInput { c with engine, received := received ++ bytes } s'
    | (.ended, s') => (.error .connectionClosed, fail { c with engine, received } .connectionClosed, s')
    | (.failed, s') => (.error .socketError, fail { c with engine, received } .socketError, s')
    | (.blocked, s') => (.ok (), { c with engine, received }, s')
termination_by ByteStream.backlog s
decreasing_by exact ByteStream.backlog_read _read

/-- Writes what the stream takes. Says what is left and whether anything was taken. -/
def drain (s : σ) (bytes : Bytes) (wrote : Bool) : Except Fault Unit × Bytes × Bool × σ :=
  if bytes.isEmpty then (.ok (), [], wrote, s)
  else match ByteStream.write s bytes with
    | (.accepted n, s') =>
      if n = 0 then (.error .connectionClosed, bytes, wrote, s') else drain s' (bytes.drop n) true
    | (.blocked, s') => (.ok (), bytes, wrote, s')
    | (.failed, s') => (.error .socketError, bytes, wrote, s')
termination_by bytes.length
decreasing_by exact Bytes.length_drop_lt ‹_› ‹_›

/-- Writes and flushes as far as the stream goes along; the rest stays queued. -/
def writeOutput (now : Nat) (c : Client) (s : σ) : Except Fault Unit × Client × σ :=
  let (result, left, wrote, s) := drain s c.engine.outgoing.toList false
  let lastSent := if wrote then now else c.engine.lastSent
  let c := { c with engine := { c.engine with outgoing := left.toArray, lastSent } }
  match result with
  | .error f => (.error f, c.fail f, s)
  | .ok () =>
    match ByteStream.flush s with
    | (.failed, s) => (.error .socketError, c.fail .socketError, s)
    | (_, s) => (.ok (), c, s)

/-- One exchange of everything that can move now: input, keep-alive, output. -/
def sync (now : Nat) (c : Client) (s : σ) : Except Fault Unit × Client × σ :=
  match lift Engine.ready c with
  | (.error f, c) => (.error f, c, s)
  | (.ok (), c) =>
    match takeInput c s with
    | (.error f, c, s) => (.error f, c, s)
    | (.ok (), c, s) =>
      match lift (Engine.serviceKeepAlive now) c with
      | (.error f, c) => (.error f, c, s)
      | (.ok (), c) => writeOutput now c s

end Client

end MqttLink
