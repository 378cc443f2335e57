import MqttLink.Session.Loop

/-!
# Connecting and disconnecting

Both begin by tearing down what there is: the loop is told to stop, the broker is told goodbye, and
the record is cleared once the loop has ended.
-/

namespace MqttLink.Session

variable {ω κ δ φ : Type} (b : Backend ω κ δ φ)

/-! ## Beginning -/

def dialFor (now : Nat) (plan : ConnectPlan) (handler : Option Handler) (x : Session ω κ δ φ) :
    Session ω κ δ φ :=
  let x := x.update (State.begin b plan handler)
  let (dial, outside) := b.dial now x.settings plan handler x.outside
  { x with outside, call := .dialing dial }

/-- What follows once nothing is left of the previous session. -/
def pursue (now : Nat) (goal : Goal) (x : Session ω κ δ φ) : Session ω κ δ φ :=
  match goal with
  | .disconnect => { x with call := .finished (.ok ()) }
  | .connect plan handler => x.dialFor b now plan handler

/-- With nothing to tear down this is no work at all. -/
def tearDown (now : Nat) (goal : Goal) (x : Session ω κ δ φ) : Session ω κ δ φ :=
  if !x.snapshot.status.isInitialized ∧ x.loop.isNone then x.pursue b now goal
  else
    { x with
      loop := x.loop.map fun l => { l with stopping := true }
      call := .stopping goal }

def disconnect (now : Nat) (x : Session ω κ δ φ) : Session ω κ δ φ := x.tearDown b now .disconnect

/-- A request that cannot work changes nothing. -/
def connect (now : Nat) (request : ConnectRequest) (handler : Option Handler)
    (x : Session ω κ δ φ) : Session ω κ δ φ :=
  match request.validate with
  | .error e => { x with call := .finished (.error e) }
  | .ok () => x.tearDown b now (.connect request.plan handler)

/-! ## Going on -/

/-- Only a connected client says goodbye. It is not part of the record meanwhile. -/
def sayGoodbye (now : Nat) (goal : Goal) (x : Session ω κ δ φ) : Session ω κ δ φ :=
  match x.state.status, x.state.client with
  | .connected, some client =>
    let (farewell, outside) := b.leave now client x.outside
    { x with
      outside, state := { x.state with client := none }, call := .leaving goal farewell }
  | _, _ => { x with call := .joining goal }

def recordDial (result : Except SessionError κ) (x : Session ω κ δ φ) : Session ω κ δ φ :=
  match result with
  | .ok client =>
    { x.update (State.install b client) with loop := some {}, call := .finished (.ok ()) }
  | .error e => { x.act (State.abandon b e) with call := .finished (.error e) }

/-- Goes on if it can, and says whether that brought the operation forward. -/
def stepCall (now : Nat) (x : Session ω κ δ φ) : Bool × Session ω κ δ φ :=
  match x.call with
  | .idle | .finished _ => (false, x)
  | .stopping goal => (true, x.sayGoodbye b now goal)
  | .leaving goal farewell =>
    match b.pollLeave now farewell x.outside with
    | (.waiting farewell, outside) => (false, { x with outside, call := .leaving goal farewell })
    | (.done client, outside) =>
      (true, { x with
        outside, state := { x.state with client := some client }, call := .joining goal })
  | .joining goal =>
    match x.loop.map Loop.phase with
    | none | some .ended =>
      (true, ({ x with loop := none }.act (State.reset b)).pursue b now goal)
    | some _ => (false, x)
  | .dialing dial =>
    match b.pollDial now dial x.outside with
    | (.waiting dial, outside) => (false, { x with outside, call := .dialing dial })
    | (.done result, outside) => (true, { x with outside }.recordDial b result)

/-- When the operation goes on by itself. -/
def callWake (x : Session ω κ δ φ) : Option Nat :=
  match x.call with
  | .leaving _ farewell => some (b.leaveWake farewell)
  | .dialing dial => some (b.dialWake dial).due
  | .idle | .stopping _ | .joining _ | .finished _ => none

/-- The result of the operation, once there is one. -/
def result? (x : Session ω κ δ φ) : Option (Except SessionError Unit) :=
  match x.call with
  | .finished result => some result
  | _ => none

end MqttLink.Session
