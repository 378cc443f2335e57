import MqttLink.Fault
import MqttLink.Session.Status

/-!
# Errors of a session
-/

namespace MqttLink

inductive SessionError where
  | invalidConfig (reason : String)
  /-- The name of the broker means nothing. -/
  | unresolved (host port reason : String)
  /-- No address of the broker answered. -/
  | unreachable (host port reason : String)
  | protocol (fault : Fault) (context : String)
  | notConnected (status : Status)
  | emptyTopic
  | shuttingDown
  deriving DecidableEq, Repr

namespace SessionError

def message : SessionError → String
  | invalidConfig reason => "Invalid configuration: " ++ reason
  | unresolved host port reason => "Failed to resolve " ++ host ++ ":" ++ port ++ ": " ++ reason
  | unreachable host port reason =>
    "Failed to open socket to " ++ host ++ ":" ++ port ++ ": " ++ reason
  | protocol fault context => context ++ ": " ++ fault.message
  | notConnected status => "Not connected - current state: " ++ status.message
  | emptyTopic => "Invalid topic - topic cannot be empty"
  | shuttingDown => "Session is shutting down"

/-- The fault that decides about another attempt. Trouble with the socket counts as one. -/
def fault? : SessionError → Option Fault
  | protocol fault _ => some fault
  | unresolved .. | unreachable .. => some .socketError
  | invalidConfig _ | notConnected _ | emptyTopic | shuttingDown => none

def retriable (e : SessionError) : Bool := e.fault?.any (·.retriable true)

end SessionError

end MqttLink
