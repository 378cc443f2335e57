import MqttLink.Backoff
import MqttLink.Fault

/-!
# Settings of a session

How long to wait, how often to try and how much to buffer, and the decision that follows a loss.
-/

namespace MqttLink

/-- Bounds on the bytes that a client holds in each direction. -/
structure BufferSizes where
  send : UInt64 := 2048
  recv : UInt64 := 1024
  deriving DecidableEq, Repr

/-- Times are in milliseconds. -/
structure Settings where
  /-- Attempts allowed after a loss. -/
  maxRetries : UInt32 := 5
  backoff : Backoff := {}
  /-- Bound on the handshake. -/
  connectTimeout : Nat := 10000
  /-- Rest between two cycles of the loop. -/
  syncInterval : Nat := 100
  retryUnknown : Bool := true
  buffers : BufferSizes := {}
  deriving DecidableEq, Repr

/-! ## Settings that cannot work -/

inductive SettingsError where
  | noBaseDelay
  | maxBelowBase
  | noSyncInterval
  | noConnectTimeout
  | noBuffer
  deriving DecidableEq, Repr

def SettingsError.message : SettingsError → String
  | noBaseDelay => "base_delay_ms must be greater than 0"
  | maxBelowBase => "max_delay_ms must not be less than base_delay_ms"
  | noSyncInterval => "sync_interval must be greater than 0"
  | noConnectTimeout => "connect_timeout must be greater than 0"
  | noBuffer => "buffer sizes must be greater than 0"

namespace Settings

/-- The first thing that is wrong. -/
def validate (s : Settings) : Except SettingsError Unit := do
  if s.backoff.base = 0 then throw .noBaseDelay
  if s.backoff.max < s.backoff.base then throw .maxBelowBase
  if s.syncInterval = 0 then throw .noSyncInterval
  if s.connectTimeout = 0 then throw .noConnectTimeout
  if s.buffers.send = 0 ∨ s.buffers.recv = 0 then throw .noBuffer

/-! ## After a loss -/

inductive Decision where
  /-- Wait, and then make this attempt. -/
  | proceed (attempt : Nat) (delay : UInt64)
  | stopRequested
  | notRetriable (fault : Fault)
  | exhausted
  deriving DecidableEq, Repr

/-- A stop request comes before everything, then a fault that will not heal, then the count. -/
def decide (s : Settings) (fault : Option Fault) (retries : Nat) (stop : Bool) : Decision :=
  if stop then .stopRequested
  else match fault.filter (fun f => !f.retriable s.retryUnknown) with
    | some f => .notRetriable f
    | none =>
      if s.maxRetries.toNat ≤ retries then .exhausted
      else .proceed (retries + 1) (s.backoff.delay retries)

end Settings

end MqttLink
