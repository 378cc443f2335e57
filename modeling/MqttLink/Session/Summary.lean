import MqttLink.Session.Request
import MqttLink.Text.Quoted

/-!
# One line about a request

A summary names every field of a request or of its options, and never shows a password.
-/

namespace MqttLink.Summary

def optional : Option String → String
  | none => "None"
  | some s => "Some(" ++ Text.quoted s ++ ")"

/-- That there is a secret is no secret. -/
def masked (secret : Option String) : String := optional (secret.map fun _ => "***")

def truth (b : Bool) : String := if b then "true" else "false"

def record (name : String) (fields : List (String × String)) : String :=
  name ++ " \x7b " ++ ", ".intercalate (fields.map fun (key, value) => key ++ ": " ++ value) ++ " \x7d"

end MqttLink.Summary

namespace MqttLink

open Summary

def ConnectRequest.summary (r : ConnectRequest) : String :=
  record "MqttConfig"
    [("host", Text.quoted r.host),
     ("port", optional r.port),
     ("client_id", optional r.clientId),
     ("username", optional r.username),
     ("password", masked r.password),
     ("keep_alive_secs", toString r.keepAliveSecs),
     ("clean_session", truth r.cleanSession)]

def ConnectOptions.summary (o : ConnectOptions) : String :=
  record "ConnectOptions"
    [("client_id", optional o.clientId),
     ("username", optional o.username),
     ("password", masked o.password),
     ("keep_alive_secs", toString o.keepAliveSecs),
     ("clean_session", truth o.cleanSession)]

/-- Requests that differ only in their passwords have one summary. -/
theorem ConnectRequest.summary_password (r : ConnectRequest) (p q : String) :
    { r with password := some p }.summary = { r with password := some q }.summary := rfl

end MqttLink
