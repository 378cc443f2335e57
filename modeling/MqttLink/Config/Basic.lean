import MqttLink.Settings

/-!
# Configuration

A configuration says where the broker is, how the session behaves and what to subscribe. Secrets are
not part of it, only the names of the variables that hold them.
-/

namespace MqttLink

structure Config.Broker where
  /-- Counts only without a host. -/
  url : Option String := none
  host : Option String := none
  port : Option UInt16 := none
  clientId : Option String := none
  usernameVariable : Option String := none
  passwordVariable : Option String := none
  /-- Zero stands for the default. -/
  keepAliveSecs : UInt16 := 0
  cleanSession : Bool := true
  deriving DecidableEq, Repr

/-- Delays are in milliseconds, the timeout is in seconds. -/
structure Config.Tuning where
  maxRetries : UInt32 := 5
  baseDelay : UInt64 := 1000
  maxDelay : UInt64 := 30000
  connectTimeoutSecs : UInt64 := 10
  syncInterval : UInt64 := 100
  retryUnknown : Bool := true
  sendBuffer : UInt64 := 2048
  recvBuffer : UInt64 := 1024
  deriving DecidableEq, Repr

structure Config.Subscription where
  topic : String
  qos : UInt8 := 0
  deriving DecidableEq, Repr

structure Config where
  broker : Config.Broker := {}
  session : Config.Tuning := {}
  subscriptions : List Config.Subscription := []
  deriving DecidableEq, Repr

namespace Config

def settings (c : Config) : Settings where
  maxRetries := c.session.maxRetries
  backoff := ⟨c.session.baseDelay, c.session.maxDelay⟩
  connectTimeout := c.session.connectTimeoutSecs.toNat * 1000
  syncInterval := c.session.syncInterval.toNat
  retryUnknown := c.session.retryUnknown
  buffers := ⟨c.session.sendBuffer, c.session.recvBuffer⟩

end Config

end MqttLink
