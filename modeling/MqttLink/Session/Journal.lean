import MqttLink.Log.Entry
import MqttLink.Session.Basic

/-!
# What is written down about a session

Every step is told by what it changed: what the caller and the loop came to, the status, and what they
do next.
-/

namespace MqttLink.Journal

open Log (Entry)

/-! ## The status -/

/-- A change of status. -/
def transition (before after : Status) : Entry :=
  match before, after with
  | .connecting, .connected => ⟨.health, .info, "MQTT connection established successfully", []⟩
  | .connected, .disconnected => ⟨.health, .warn, "MQTT connection lost", ["reason"]⟩
  | _, .reconnectFailed => ⟨.health, .error, "MQTT reconnection permanently failed", ["reason"]⟩
  | _, _ =>
    ⟨.health, .debug, "MQTT session state: " ++ before.message ++ " -> " ++ after.message, []⟩

/-- One step may lose a connection and give up, but the loss comes first. -/
def transitions (before after : Status) : List Entry :=
  match before, after with
  | .connected, .reconnectFailed =>
    [transition .connected .disconnected, transition .disconnected .reconnectFailed]
  | _, _ => if before = after then [] else [transition before after]

/-! ## Errors -/

def recorded : Entry := ⟨.client, .debug, "Recording session error", ["error"]⟩

/-- What the socket had to say about an attempt. -/
def socketTrouble : SessionError → List Entry
  | .unreachable .. => [⟨.socket, .warn, "Connection attempt failed", ["addr", "error"]⟩]
  | _ => []

/-- An operation that was refused says nothing, and one that failed does. -/
def operationTrouble : SessionError → List Entry
  | .protocol .. =>
    [⟨.client, .warn, "MQTT operation failed", ["operation", "topic", "error"]⟩, recorded]
  | _ => []

/-! ## Steps -/

variable {ω κ δ φ : Type}

/-- What happened before the status changed. -/
def causes (x y : Session ω κ δ φ) : List Entry :=
  match x.call, y.call with
  | .dialing _, .finished (.error e) =>
    socketTrouble e ++ [⟨.client, .warn, "MQTT connect failed", ["endpoint", "error"]⟩, recorded]
  | _, _ =>
    match x.loop.map Loop.phase, y.loop.map Loop.phase with
    | some (.redialing _), some (.redialed (.error e)) => socketTrouble e
    | some (.redialed (.ok _)), some .cycling =>
      [⟨.loop, .info, "MQTT reconnected", ["endpoint"]⟩]
    | some (.redialed (.error _)), some (.resting _) =>
      [⟨.loop, .warn, "MQTT reconnect attempt failed", ["endpoint", "error"]⟩, recorded]
    | some .cycling, some (.backingOff ..) =>
      if x.state.status = y.state.status then [] else [recorded]
    | _, _ => []

/-- What begins or ends with the caller's operation. -/
def callTurns (before after : Call δ φ) : List Entry :=
  match before, after with
  | .dialing _, _ => []
  | _, .dialing _ => [⟨.client, .info, "Connecting to MQTT broker", ["endpoint", "client_id"]⟩]
  | .joining _, .finished _ => [⟨.client, .info, "MQTT session disconnected", []⟩]
  | _, _ => []

/-- What begins or ends with a phase of the loop. -/
def loopTurns (before after : Option (Phase κ δ)) : List Entry :=
  match before, after with
  | none, some _ =>
    [⟨.loop, .info, "MQTT sync loop started", ["max_retries", "max_total_backoff_ms"]⟩]
  | some .ended, _ | _, none => []
  | some _, some .ended => [⟨.loop, .info, "MQTT sync loop stopped", []⟩]
  | some (.backingOff ..), _ => []
  | some _, some (.backingOff ..) => 
    [⟨.loop, .info, "Scheduling MQTT reconnect", ["attempt", "max_retries", "delay_ms"]⟩]
  | _, _ => []

/-- What is written down about one step. -/
def ofStep (x y : Session ω κ δ φ) : List Entry :=
  causes x y ++ transitions x.state.status y.state.status ++ callTurns x.call y.call ++
  loopTurns (x.loop.map Loop.phase) (y.loop.map Loop.phase)

end MqttLink.Journal
