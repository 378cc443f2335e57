import MqttLink.Session.State

/-!
# Sessions

A session is the shared record, the loop that keeps the connection alive, and the caller's operation
under way, with the outside that all of them act on. It moves in steps, and between two steps the
other party or the outside may act.
-/

namespace MqttLink

/-! ## The loop -/

/-- Where the loop stands. -/
inductive Phase (κ δ : Type) where
  | cycling
  | resting (until_ : Appointment)
  | backingOff (until_ : Appointment) (plan : ConnectPlan) (handler : Option Handler)
  | redialing (dial : δ)
  /-- The attempt is over and its result is to be recorded. -/
  | redialed (result : Except SessionError κ)
  | ended

/-- Whether the loop goes on at once when it has come here. -/
def Phase.isWork {κ δ : Type} : Phase κ δ → Bool
  | cycling | redialing _ | redialed _ => true
  | resting _ | backingOff .. | ended => false

structure Loop (κ δ : Type) where
  phase : Phase κ δ := .cycling
  /-- It is at work, and nobody else goes on before it has to wait. -/
  awake : Bool := false
  /-- Somebody asked the loop to end. -/
  stopping : Bool := false

/-! ## The caller -/

/-- What the caller is after. -/
inductive Goal where
  | disconnect
  | connect (plan : ConnectPlan) (handler : Option Handler)

/-- Where the caller's operation stands. -/
inductive Call (δ φ : Type) where
  | idle
  /-- The loop knows that it has to end. -/
  | stopping (goal : Goal)
  /-- The shared record is held. -/
  | leaving (goal : Goal) (farewell : φ)
  /-- Waits for the loop to end. -/
  | joining (goal : Goal)
  /-- The shared record is held. -/
  | dialing (dial : δ)
  | finished (result : Except SessionError Unit)

namespace Call

variable {δ φ : Type}

/-- Whether the caller holds the shared record, so that the loop cannot touch it. -/
def holdsState : Call δ φ → Bool
  | leaving .. | dialing _ => true
  | idle | stopping _ | joining _ | finished _ => false

end Call

/-! ## Both -/

structure Session (ω κ δ φ : Type) where
  settings : Settings
  state : State κ := {}
  loop : Option (Loop κ δ) := none
  call : Call δ φ := .idle
  outside : ω
  /-- Messages handed to a handler, the first one first. -/
  delivered : Array (Handler × Message) := #[]

namespace Session

variable {ω κ δ φ : Type}

/-- Changes the shared record. -/
def update (f : State κ → State κ) (x : Session ω κ δ φ) : Session ω κ δ φ :=
  { x with state := f x.state }

/-- Changes the shared record and the outside. -/
def act (f : State κ → ω → State κ × ω) (x : Session ω κ δ φ) : Session ω κ δ φ :=
  let (state, outside) := f x.state x.outside
  { x with state, outside }

def setPhase (phase : Phase κ δ) (x : Session ω κ δ φ) : Session ω κ δ φ :=
  { x with loop := x.loop.map fun l => { l with phase, awake := phase.isWork } }

/-- The loop has nothing to wait for. -/
def goOn (x : Session ω κ δ φ) : Session ω κ δ φ :=
  { x with loop := x.loop.map fun l => { l with awake := true } }

/-- The loop has to wait where it is. -/
def block (x : Session ω κ δ φ) : Session ω κ δ φ :=
  { x with loop := x.loop.map fun l => { l with awake := false } }

def snapshot (x : Session ω κ δ φ) : Snapshot := x.state.published

end Session

end MqttLink
