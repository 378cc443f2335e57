import MqttLink.Client.Basic
import MqttLink.Clock
import MqttLink.Progress

/-!
# The handshake

A client introduces itself and waits for the verdict, both before one deadline, which has to be a time
that the clock can tell. Whatever follows the verdict in the same read stays for later.
-/

namespace MqttLink

/-- What a client asks for when it connects. -/
structure ConnectOptions where
  clientId : Option String := none
  username : Option String := none
  password : Option String := none
  keepAliveSecs : UInt16 := 0
  cleanSession : Bool := false
  deriving DecidableEq, Repr

/-- A password without a user name is not sent. -/
def ConnectOptions.greeting (o : ConnectOptions) : Greeting where
  clientId := o.clientId.getD ""
  keepAliveSecs := o.keepAliveSecs
  cleanSession := o.cleanSession
  login := o.username.map fun user => (user, o.password.getD "")

/-- Where a handshake stands. -/
inductive Handshake.Stage where
  | sending (rest : Bytes)
  | flushing
  | awaiting
  deriving DecidableEq, Repr

structure Handshake where
  deadline : Nat
  stage : Handshake.Stage
  deriving DecidableEq, Repr

namespace Client

/-- With the interval for keep-alive that was asked for. -/
def asked (options : ConnectOptions) (c : Client) : Client :=
  { c with engine := { c.engine with keepAlive := options.keepAliveSecs.toNat * 1000 } }

/-- Queues the greeting. Nothing is written yet. If the deadline cannot be told there is no result, and
whoever waits for one waits in vain. -/
def greet (now : Nat) (options : ConnectOptions) (timeout : Nat) (c : Client) :
    Option (Except Fault Handshake) × Client :=
  match c.fault with
  | some f => (some (.error f), c)
  | none =>
    let c := c.asked options
    match Clock.deadline? now timeout with
    | none => (none, c)
    | some deadline =>
      match lift (Engine.queue (.connect options.greeting)) c with
      | (.error f, c) => (some (.error f), c)
      | (.ok (), c) => (some (.ok ⟨deadline, .sending c.engine.outgoing.toList⟩), c)

/-- What the first packet from the broker means. -/
def judge (p : Packet) (c : Client) : Except Fault Unit × Client :=
  match p with
  | .connack _ .accepted => (.ok (), { c with engine := { c.engine with connected := true } })
  | .connack .. => (.error .connectionRefused, c.fail .connectionRefused)
  | _ => (.error .malformedPacket, c.fail .malformedPacket)

/-- The whole send buffer has left. -/
def outgoingSent (now : Nat) (c : Client) : Client :=
  { c with engine := { c.engine with outgoing := #[], lastSent := now } }

variable {σ : Type} [ByteStream σ]

/-- Reads until there is a first packet; `none` if that needs more bytes. -/
def awaitReply (c : Client) (s : σ) : Option (Except Fault Unit) × Client × σ :=
  match Next.of c.recvCapacity c.received with
  | .fault f received => (some (.error f), { c.fail f with received }, s)
  | .packet p received =>
    let (verdict, c) := judge p { c with received }
    (some verdict, c, s)
  | .incomplete =>
    match _read : ByteStream.read s with
    | (.data bytes, s') => awaitReply { c with received := c.received ++ bytes } s'
    | (.ended, s') => (some (.error .connectionClosed), c.fail .connectionClosed, s')
    | (.failed, s') => (some (.error .socketError), c.fail .socketError, s')
    | (.blocked, s') => (none, c, s')
termination_by ByteStream.backlog s
decreasing_by exact ByteStream.backlog_read _read

end Client

namespace Handshake

variable {σ : Type} [ByteStream σ]

/-- Waiting on is pointless once the deadline has come. -/
def block (now : Nat) (h : Handshake) (c : Client) (s : σ) :
    Progress Handshake (Except Fault Unit) × Client × σ :=
  if h.deadline ≤ now then (.done (.error .socketError), c.fail .socketError, s)
  else (.waiting h, c, s)

def pollReply (now : Nat) (h : Handshake) (c : Client) (s : σ) :
    Progress Handshake (Except Fault Unit) × Client × σ :=
  match c.awaitReply s with
  | (some verdict, c, s) => (.done verdict, c, s)
  | (none, c, s) => block now { h with stage := .awaiting } c s

def pollFlush (now : Nat) (h : Handshake) (c : Client) (s : σ) :
    Progress Handshake (Except Fault Unit) × Client × σ :=
  match ByteStream.flush s with
  | (.failed, s) => (.done (.error .socketError), c.fail .socketError, s)
  | (.blocked, s) => block now { h with stage := .flushing } c s
  | (.flushed, s) => pollReply now h (c.outgoingSent now) s

/-- Goes on as far as possible. -/
def poll (now : Nat) (h : Handshake) (c : Client) (s : σ) :
    Progress Handshake (Except Fault Unit) × Client × σ :=
  match h.stage with
  | .sending rest =>
    match ByteStream.sendAll s rest with
    | (.failed, s) => (.done (.error .socketError), c.fail .socketError, s)
    | (.rest rest, s) => block now { h with stage := .sending rest } c s
    | (.all, s) => pollFlush now h c s
  | .flushing => pollFlush now h c s
  | .awaiting => pollReply now h c s

end Handshake

end MqttLink
