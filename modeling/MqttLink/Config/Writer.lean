import MqttLink.Config.Basic
import MqttLink.Config.Error
import MqttLink.Toml.Writer

/-!
# Writing a configuration

The sections follow one another in their order, and options that are absent are left out. A number
that no TOML integer can hold cannot be written.
-/

namespace MqttLink.Config

open Toml (Value Statement)

/-! ## Fields -/

def fieldOf (key : String) (v : Value) : Statement := .assign { key } v

def textField (key : String) (s : String) : Statement := fieldOf key (.text s)

def numberField (key : String) (n : Nat) : Statement := fieldOf key (.integer n)

def booleanField (key : String) (b : Bool) : Statement := fieldOf key (.boolean b)

/-! ## Sections -/

def Broker.statements (b : Broker) : List Statement :=
  [b.url.map (textField "broker_url"),
   b.host.map (textField "host"),
   b.port.map fun p => numberField "port" p.toNat,
   b.clientId.map (textField "client_id"),
   b.usernameVariable.map (textField "username_env"),
   b.passwordVariable.map (textField "password_env")].reduceOption ++
  [numberField "keep_alive_secs" b.keepAliveSecs.toNat,
   booleanField "clean_session" b.cleanSession]

def Tuning.statements (t : Tuning) : List Statement :=
  [numberField "max_retries" t.maxRetries.toNat,
   numberField "base_delay_ms" t.baseDelay.toNat,
   numberField "max_delay_ms" t.maxDelay.toNat,
   numberField "connect_timeout_secs" t.connectTimeoutSecs.toNat,
   numberField "sync_interval_ms" t.syncInterval.toNat,
   booleanField "retry_unknown_errors" t.retryUnknown,
   numberField "send_buffer_size" t.sendBuffer.toNat,
   numberField "recv_buffer_size" t.recvBuffer.toNat]

def Subscription.statements (s : Subscription) : List Statement :=
  [.element { key := "subscriptions" },
   textField "topic" s.topic,
   numberField "qos" s.qos.toNat]

/-- Without any subscription the empty list comes first, since it belongs to no section. -/
def statements (c : Config) : List Statement :=
  (if c.subscriptions.isEmpty then [fieldOf "subscriptions" (.array [])] else []) ++
  .table { key := "mqtt" } :: c.broker.statements ++
  .table { key := "session" } :: c.session.statements ++
  c.subscriptions.flatMap Subscription.statements

/-! ## Text -/

/-- Whether TOML has the number that is assigned. -/
def isWritable : Statement → Bool
  | .assign _ (.integer n) => Toml.smallest ≤ n ∧ n ≤ Toml.largest
  | _ => true

def toToml (c : Config) : Except ConfigError String :=
  if c.statements.all isWritable then .ok (String.ofList (Toml.writeStatements c.statements))
  else .error .unwritable

end MqttLink.Config
