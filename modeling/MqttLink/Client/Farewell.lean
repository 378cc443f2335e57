import MqttLink.Client.Handshake

/-!
# The farewell

A graceful end: everything queued is written, then a DISCONNECT, and then the stream is shut down.
Each of the two waits has its own deadline.
-/

namespace MqttLink

/-- How long a peer may keep a farewell waiting, in milliseconds, each time. -/
def Farewell.patience : Nat := 2000

inductive Farewell.Stage where
  | sending (rest : Bytes)
  | flushing
  | closing
  deriving DecidableEq, Repr

structure Farewell where
  deadline : Nat
  stage : Farewell.Stage
  deriving DecidableEq, Repr

namespace Client

/-- Queues the DISCONNECT, after which the client counts as not connected. -/
def leave (now : Nat) (c : Client) : Except Fault Farewell × Client :=
  match lift (do Engine.ready; Engine.queue .disconnect) c with
  | (.error f, c) => (.error f, c)
  | (.ok (), c) =>
    let c := { c with engine := { c.engine with connected := false } }
    (.ok ⟨now + Farewell.patience, .sending c.engine.outgoing.toList⟩, c)

end Client

namespace Farewell

variable {σ : Type} [ByteStream σ]

def block (now : Nat) (f : Farewell) (c : Client) (s : σ) :
    Progress Farewell (Except Fault Unit) × Client × σ :=
  if f.deadline ≤ now then (.done (.error .socketError), c.fail .socketError, s)
  else (.waiting f, c, s)

/-- A stream that will not shut down in time is no failure: it is about to be dropped anyway. -/
def pollClose (now : Nat) (f : Farewell) (c : Client) (s : σ) :
    Progress Farewell (Except Fault Unit) × Client × σ :=
  match ByteStream.shutdown s with
  | (true, s) => (.done (.ok ()), c, s)
  | (false, s) =>
    if f.deadline ≤ now then (.done (.ok ()), c, s)
    else (.waiting { f with stage := .closing }, c, s)

def pollFlush (now : Nat) (f : Farewell) (c : Client) (s : σ) :
    Progress Farewell (Except Fault Unit) × Client × σ :=
  match ByteStream.flush s with
  | (.failed, s) => (.done (.error .socketError), c.fail .socketError, s)
  | (.blocked, s) => block now { f with stage := .flushing } c s
  | (.flushed, s) => pollClose now { f with deadline := now + patience } (c.outgoingSent now) s

/-- Goes on as far as possible. -/
def poll (now : Nat) (f : Farewell) (c : Client) (s : σ) :
    Progress Farewell (Except Fault Unit) × Client × σ :=
  match f.stage with
  | .sending rest =>
    match ByteStream.sendAll s rest with
    | (.failed, s) => (.done (.error .socketError), c.fail .socketError, s)
    | (.rest rest, s) => block now { f with stage := .sending rest } c s
    | (.all, s) => pollFlush now f c s
  | .flushing => pollFlush now f c s
  | .closing => pollClose now f c s

end Farewell

end MqttLink
