import MqttLink.Session.Backend

/-!
# A broker that only keeps records

It grants everything, writes down what it was asked, and fails where it was told to. Nothing of it
ever waits.
-/

namespace MqttLink

/-- A message as a broker gets it. -/
structure Publication where
  message : Message
  qos : QoS
  retain : Bool
  deriving DecidableEq, Repr

structure Ledger where
  /-- How many of the next dials fail. -/
  failingDials : Nat := 0
  /-- The faults of the next handshakes. -/
  failingHandshakes : List Fault := []
  /-- The fault of the next exchange. -/
  pendingDrop : Option Fault := none
  failingPublishes : Option Fault := none
  /-- Messages for the next exchange. -/
  deliveries : Array Message := #[]
  endpoints : Array (String × String) := #[]
  options : Array ConnectOptions := #[]
  buffers : Array BufferSizes := #[]
  published : Array Publication := #[]
  subscriptions : Array (String × QoS) := #[]
  unsubscriptions : Array String := #[]
  disconnects : Nat := 0
  syncs : Nat := 0
  deriving Repr

namespace Ledger

structure Client where
  handler : Option Handler
  fault : Option Fault := none
  connected : Bool := false
  deriving DecidableEq, Repr

namespace Client

def ready (c : Client) : Except Fault Unit :=
  match c.fault with
  | some f => .error f
  | none => if c.connected then .ok () else .error .connectNotCalled

def fail {α : Type} (c : Client) (f : Fault) (l : Ledger) : Except Fault α × Client × Ledger :=
  (.error f, { c with fault := some f }, l)

end Client

/-- The socket first, then the handshake. -/
def dial (settings : Settings) (plan : ConnectPlan) (handler : Option Handler) (l : Ledger) :
    Except SessionError Client × Ledger :=
  let l := { l with endpoints := l.endpoints.push (plan.host, plan.port) }
  if 0 < l.failingDials then
    (.error (.unreachable plan.host plan.port "connection refused"),
      { l with failingDials := l.failingDials - 1 })
  else
    let l :=
      { l with buffers := l.buffers.push settings.buffers, options := l.options.push plan.options }
    match l.failingHandshakes with
    | f :: rest => (.error (.protocol f "MQTT connect failed"), { l with failingHandshakes := rest })
    | [] => (.ok { handler, connected := true }, l)

def publish (message : Message) (qos : QoS) (retain : Bool) (c : Client) (l : Ledger) :
    Except Fault Unit × Client × Ledger :=
  match c.ready, l.failingPublishes with
  | .error f, _ => (.error f, c, l)
  | .ok (), some f => c.fail f l
  | .ok (), none => (.ok (), c, { l with published := l.published.push ⟨message, qos, retain⟩ })

def subscribe (topic : String) (qos : QoS) (c : Client) (l : Ledger) :
    Except Fault Unit × Client × Ledger :=
  match c.ready with
  | .error f => (.error f, c, l)
  | .ok () => (.ok (), c, { l with subscriptions := l.subscriptions.push (topic, qos) })

def unsubscribe (topic : String) (c : Client) (l : Ledger) : Except Fault Unit × Client × Ledger :=
  match c.ready with
  | .error f => (.error f, c, l)
  | .ok () => (.ok (), c, { l with unsubscriptions := l.unsubscriptions.push topic })

/-- Messages that meet a broken connection are lost. -/
def sync (c : Client) (l : Ledger) :
    Except Fault Unit × List (Handler × Message) × Client × Ledger :=
  match c.ready with
  | .error f => (.error f, [], c, l)
  | .ok () =>
    let messages := l.deliveries.toList
    let dropped := l.pendingDrop
    let l := { l with syncs := l.syncs + 1, deliveries := #[], pendingDrop := none }
    match dropped, c.handler with
    | some f, _ => (.error f, [], { c with fault := some f }, l)
    | none, some h => (.ok (), messages.map (h, ·), c, l)
    | none, none => (.ok (), [], c, l)

def leave (c : Client) (l : Ledger) : Client × Ledger :=
  match c.ready with
  | .error _ => (c, l)
  | .ok () => ({ c with connected := false }, { l with disconnects := l.disconnects + 1 })

/-- What a dial will come to is known as soon as it begins. -/
def backend : Backend Ledger Client (Except SessionError Client) Client where
  appoint due l := (⟨due, 0⟩, l)
  dial _ settings plan handler l := l.dial settings plan handler
  pollDial _ result l := (.done result, l)
  dialWake _ := ⟨0, 0⟩
  hangUp _ l := l
  fault := Client.fault
  publish := publish
  subscribe := subscribe
  unsubscribe := unsubscribe
  sync _ := sync
  leave _ := leave
  pollLeave _ c l := (.done c, l)
  leaveWake _ := 0
  drop _ l := l

end Ledger

end MqttLink
