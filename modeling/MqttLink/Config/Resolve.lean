import MqttLink.Config.Basic
import MqttLink.Config.Error
import MqttLink.Config.Reader
import MqttLink.Environment
import MqttLink.Session.Request

/-!
# From a configuration to a request

A host counts before a URL. User name and password come from the variables that the configuration
names.
-/

namespace MqttLink.Config

/-! ## The broker -/

/-- An empty host is no host. The port of the configuration belongs to the host, a URL has its own. -/
def endpoint (c : Config) : Except ConfigError Endpoint :=
  match c.broker.host.filter (· ≠ ""), c.broker.url with
  | some host, _ => .ok { host, port := c.broker.port.map toString }
  | none, none => .error .noBroker
  | none, some url => (Endpoint.ofText url).mapError (.badBrokerUrl url)

/-! ## Validity -/

def Subscription.validate (s : Subscription) : Except ConfigError Unit := do
  if s.topic = "" then throw .emptyTopic
  if 2 < s.qos then throw (.badQoS s.topic s.qos)

/-- The first thing that is wrong: the broker, then the settings, then the subscriptions. -/
def validate (c : Config) : Except ConfigError Unit := do
  let _ ← c.endpoint
  (c.settings.validate).mapError .badSettings
  c.subscriptions.forM Subscription.validate

/-! ## Secrets -/

def username (e : Environment) (c : Config) : Option String := c.broker.usernameVariable.bind e.get?

def password (e : Environment) (c : Config) : Option String := c.broker.passwordVariable.bind e.get?

/-- A variable that is named has to be there. -/
def requirePassword (e : Environment) (c : Config) : Except ConfigError (Option String) :=
  match c.broker.passwordVariable with
  | none => .ok none
  | some name =>
    match e.get? name with
    | none => .error (.missingVariable name)
    | some secret => .ok (some secret)

theorem requirePassword_eq_ok {e : Environment} {c : Config} {p : Option String}
    (h : c.requirePassword e = .ok p) : c.password e = p := by
  unfold requirePassword at h
  unfold password
  split at h
  · next none_ =>
    cases h
    rw [none_, Option.bind_none]
  · next name some_ =>
    rw [some_, Option.bind_some]
    split at h
    · cases h
    · next found => cases h; exact found

/-! ## The request -/

def request (e : Environment) (c : Config) : Except ConfigError ConnectRequest :=
  c.endpoint.map fun place =>
    { host := place.host
      port := place.port
      clientId := c.broker.clientId
      username := c.username e
      password := c.password e
      keepAliveSecs := c.broker.keepAliveSecs
      cleanSession := c.broker.cleanSession }

/-! ## Loading -/

/-- Reads and checks. -/
def load (file : FileContent) : Except ConfigError Config := do
  let c ← read file
  c.validate
  return c

end MqttLink.Config
