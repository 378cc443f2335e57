import MqttLink.Session.Backend

/-!
# The record of a session

Everything that the caller and the loop share. Each of them changes it only while holding it, and
what others see of it is the snapshot published last.
-/

namespace MqttLink

/-- What others see of a session. -/
structure Snapshot where
  status : Status := .uninitialized
  retries : Nat := 0
  /-- The fault of the current client. -/
  fault : Option Fault := none
  lastError : Option SessionError := none
  deriving DecidableEq, Repr

def Snapshot.connected (s : Snapshot) : Bool := s.status = .connected ∧ s.fault = none

structure State (κ : Type) where
  status : Status := .uninitialized
  client : Option κ := none
  plan : Option ConnectPlan := none
  /-- Attempts since the last connection. -/
  retries : Nat := 0
  lastError : Option SessionError := none
  /-- The fault of the last failure, for the decision about another attempt. -/
  lastFault : Option Fault := none
  handler : Option Handler := none
  /-- What to subscribe again after a loss. -/
  subscriptions : List (String × QoS) := []
  published : Snapshot := {}

namespace State

variable {ω κ δ φ : Type} (b : Backend ω κ δ φ)

/-! ## Snapshots -/

def snapshot (s : State κ) : Snapshot where
  status := s.status
  retries := s.retries
  fault := s.client.bind b.fault
  lastError := s.lastError

def notify (s : State κ) : State κ := { s with published := s.snapshot b }

def setStatus (status : Status) (s : State κ) : State κ := { s with status }.notify b

/-! ## Failure and success -/

def recordError (e : SessionError) (s : State κ) : State κ :=
  { s with lastError := some e, lastFault := e.fault? }.notify b

/-- The error stays on record, but no longer counts. -/
def install (client : κ) (s : State κ) : State κ :=
  { s with client := some client, retries := 0, lastFault := none }.setStatus b .connected

def dropConnection (s : State κ) (w : ω) : State κ × ω :=
  match s.client with
  | none => (s, w)
  | some client => ({ s with client := none }, b.drop client w)

def markLost (e : SessionError) (s : State κ) (w : ω) : State κ × ω :=
  let (s, w) := dropConnection b (s.recordError b e) w
  (s.setStatus b .disconnected, w)

/-! ## Subscriptions -/

/-- A known topic keeps its place and gets the new level. -/
def remembered (topic : String) (qos : QoS) : List (String × QoS) → List (String × QoS)
  | [] => [(topic, qos)]
  | (t, q) :: rest => if t = topic then (t, qos) :: rest else (t, q) :: remembered topic qos rest

def forgotten (topic : String) (subscriptions : List (String × QoS)) : List (String × QoS) :=
  subscriptions.filter (·.1 ≠ topic)

/-- Subscribes one by one, up to the first failure. -/
def restoreAll : List (String × QoS) → κ → ω → κ × ω
  | [], client, w => (client, w)
  | (topic, qos) :: rest, client, w =>
    match b.subscribe topic qos client w with
    | (.ok (), client, w) => restoreAll rest client w
    | (.error _, client, w) => (client, w)

def restoreSubscriptions (s : State κ) (w : ω) : State κ × ω :=
  match s.client with
  | none => (s, w)
  | some client =>
    let (client, w) := restoreAll b s.subscriptions client w
    ({ s with client := some client }, w)

/-! ## Beginning and end -/

def begin (plan : ConnectPlan) (handler : Option Handler) (s : State κ) : State κ :=
  { s with
    plan := some plan, handler, subscriptions := [], retries := 0, lastError := none,
    lastFault := none }.setStatus b .connecting

/-- A connect that failed leaves nothing behind but its error. -/
def abandon (e : SessionError) (s : State κ) (w : ω) : State κ × ω :=
  let (s, w) := dropConnection b (s.recordError b e) w
  ({ s with plan := none, handler := none }.setStatus b .disconnected, w)

def reset (s : State κ) (w : ω) : State κ × ω :=
  let (s, w) := dropConnection b s w
  ({ s with
    plan := none, handler := none, subscriptions := [], retries := 0, lastError := none,
    lastFault := none }.setStatus b .uninitialized, w)

end State

end MqttLink
