import MqttLink.Session.Basic

/-!
# The loop

While connected it lets the client exchange what can move and rests. After a loss it decides, waits,
dials and decides again, until it is connected, told to stop, or out of attempts.
-/

namespace MqttLink.Session

variable {ω κ δ φ : Type} (b : Backend ω κ δ φ)

/-- Waits, and stands somewhere meanwhile. No time at all is no wait. -/
def wait (now time : Nat) (phase : Appointment → Phase κ δ) (x : Session ω κ δ φ) :
    Session ω κ δ φ :=
  let (appointment, outside) := b.appoint (Clock.after now time) x.outside
  let x := { x with outside }.setPhase (phase appointment)
  if time = 0 then x.goOn else x

/-! ## One cycle -/

/-- Lets the client exchange what can move. -/
def pump (now : Nat) (x : Session ω κ δ φ) : Except SessionError Unit × Session ω κ δ φ :=
  match x.state.client with
  | none => (.error (.protocol .socketError "No open socket"), x)
  | some client =>
    let (result, messages, client, outside) := b.sync now client x.outside
    let x :=
      { x with
        outside, state := { x.state with client := some client },
        delivered := x.delivered ++ messages }
    match result, b.fault client with
    | .error f, _ | .ok (), some f => (.error (.protocol f "MQTT sync failed"), x)
    | .ok (), none => (.ok (), x.update (State.notify b))

/-- Gives up, or sets the time of the next attempt. -/
def afterLoss (now : Nat) (x : Session ω κ δ φ) : Session ω κ δ φ :=
  match x.settings.decide x.state.lastFault x.state.retries false with
  | .proceed attempt delay =>
    match x.state.plan with
    | none => (x.update (State.setStatus b .reconnectFailed)).setPhase .ended
    | some plan =>
      (x.update fun s => { s with retries := attempt }.notify b).wait b now delay.toNat
        (.backingOff · plan x.state.handler)
  | .stopRequested => x.setPhase .ended
  | .notRetriable _ | .exhausted => (x.update (State.setStatus b .reconnectFailed)).setPhase .ended

def cycle (now : Nat) (x : Session ω κ δ φ) : Session ω κ δ φ :=
  if x.state.status = .connected then
    match x.pump b now with
    | (.ok (), x) => x.wait b now x.settings.syncInterval .resting
    | (.error e, x) => (x.act (State.markLost b e)).afterLoss b now
  else x.afterLoss b now

/-! ## One attempt -/

def redial (now : Nat) (plan : ConnectPlan) (handler : Option Handler) (x : Session ω κ δ φ) :
    Session ω κ δ φ :=
  let x := (x.act (State.dropConnection b)).update (State.setStatus b .connecting)
  let (dial, outside) := b.dial now x.settings plan handler x.outside
  { x with outside }.setPhase (.redialing dial)

/-- After success the next cycle follows at once, after failure a rest. -/
def recordRedial (now : Nat) (result : Except SessionError κ) (x : Session ω κ δ φ) :
    Session ω κ δ φ :=
  match result with
  | .ok client =>
    ((x.update (State.install b client)).act (State.restoreSubscriptions b)).setPhase .cycling
  | .error e =>
    (x.update fun s => (s.recordError b e).setStatus b .disconnected).wait b now
      x.settings.syncInterval .resting

/-- What a loop that has to end still holds is closed. -/
def endLoop (x : Session ω κ δ φ) (phase : Phase κ δ) : Session ω κ δ φ :=
  match phase with
  | .redialing dial => { x with outside := b.hangUp dial x.outside }.setPhase .ended
  | .redialed (.ok client) => { x with outside := b.drop client x.outside }.setPhase .ended
  | _ => x.setPhase .ended

/-! ## One step -/

/-- Goes on if it can, and says whether that changed the phase. -/
def stepLoop (now : Nat) (x : Session ω κ δ φ) : Bool × Session ω κ δ φ :=
  match x.loop with
  | none => (false, x)
  | some loop =>
    match loop.phase with
    | .ended => (false, x)
    | phase =>
      if loop.stopping then (true, x.endLoop b phase)
      else match phase with
      | .ended => (false, x)
      | .cycling => if x.call.holdsState then (false, x.block) else (true, x.cycle b now)
      | .resting time => if time.due ≤ now then (true, x.setPhase .cycling) else (false, x)
      | .backingOff time plan handler =>
        if time.due ≤ now ∧ !x.call.holdsState then (true, x.redial b now plan handler)
        else (false, x)
      | .redialing dial =>
        match b.pollDial now dial x.outside with
        | (.waiting dial, outside) => (false, ({ x with outside }.setPhase (.redialing dial)).block)
        | (.done result, outside) => (true, { x with outside }.setPhase (.redialed result))
      | .redialed result =>
        if x.call.holdsState then (false, x.block) else (true, x.recordRedial b now result)

/-- What the loop waits for. -/
def appointment? (x : Session ω κ δ φ) : Option Appointment :=
  match x.loop.map Loop.phase with
  | some (.resting time) | some (.backingOff time ..) => some time
  | some (.redialing dial) => some (b.dialWake dial)
  | some .cycling | some (.redialed _) | some .ended | none => none

def isAwake (x : Session ω κ δ φ) : Bool := x.loop.any Loop.awake

/-- The number of the loop if its time has come. -/
def turn? (now : Nat) (x : Session ω κ δ φ) : Option Nat :=
  ((x.appointment? b).filter (·.due ≤ now)).map Appointment.number

end MqttLink.Session
