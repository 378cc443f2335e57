/-!
# The status of a session
-/

namespace MqttLink

inductive Status where
  /-- Never connected, or torn down. -/
  | uninitialized
  | connecting
  | connected
  /-- The connection is lost and may come back. -/
  | disconnected
  /-- Given up. Only a new connect helps. -/
  | reconnectFailed
  deriving DecidableEq, Repr, Inhabited

namespace Status

def isInitialized (s : Status) : Bool := s ≠ uninitialized

def holdsSocket : Status → Bool
  | connecting | connected => true
  | uninitialized | disconnected | reconnectFailed => false

def message : Status → String
  | uninitialized => "uninitialized"
  | connecting => "connecting"
  | connected => "connected"
  | disconnected => "disconnected"
  | reconnectFailed => "reconnect failed"

end Status

end MqttLink
