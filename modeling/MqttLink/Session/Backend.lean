import MqttLink.Clock
import MqttLink.Message
import MqttLink.Packet.Basic
import MqttLink.Progress
import MqttLink.Session.Request
import MqttLink.Settings

/-!
# What a session stands on

A backend dials brokers and drives clients. It never blocks: a dial and a farewell are polled until
they are done, and each can say when it wants to be polled next at the latest. Everything outside of
the session is one value that is passed through.
-/

namespace MqttLink

/-- Whoever takes the messages is known by a number. -/
abbrev Handler := Nat

/-- `ω` is the outside, `κ` a client, `δ` a dial under way and `φ` a farewell under way. -/
structure Backend (ω κ δ φ : Type) where
  /-- Somebody begins to wait for a time. -/
  appoint : Nat → ω → Appointment × ω
  /-- Starts to dial. Counts as a use of a socket until it is done with an error. -/
  dial : Nat → Settings → ConnectPlan → Option Handler → ω → δ × ω
  pollDial : Nat → δ → ω → Progress δ (Except SessionError κ) × ω
  dialWake : δ → Appointment
  /-- Gives up a dial, closing what it holds. -/
  hangUp : δ → ω → ω
  /-- The fault that a client will never recover from. -/
  fault : κ → Option Fault
  publish : Message → QoS → Bool → κ → ω → Except Fault Unit × κ × ω
  subscribe : String → QoS → κ → ω → Except Fault Unit × κ × ω
  unsubscribe : String → κ → ω → Except Fault Unit × κ × ω
  /-- One exchange of all that can move, with the messages that came in. -/
  sync : Nat → κ → ω → Except Fault Unit × List (Handler × Message) × κ × ω
  leave : Nat → κ → ω → φ × ω
  /-- How a farewell ends makes no difference. -/
  pollLeave : Nat → φ → ω → Progress φ κ × ω
  leaveWake : φ → Nat
  /-- Closes the socket of a client. -/
  drop : κ → ω → ω

end MqttLink
