import MqttLink.Config.Basic
import MqttLink.Config.Error
import MqttLink.Toml.Reader

/-!
# Reading a configuration

A section is a table of its fields. It may also be a list of them in order, in which only the last
ones that have a default may be missing. Unknown fields count for nothing.
-/

namespace MqttLink.Config

open Toml (Value)

/-! ## Sections -/

inductive Section where
  | byName (fields : List (String × Value))
  | byPosition (items : List Value)

namespace Section

/-- A moment has no field of any name. -/
def ofValue? : Value → Option Section
  | .table fields => some (.byName fields)
  | .array items => some (.byPosition items)
  | .moment _ => some (.byName [])
  | _ => none

def get? (s : Section) (position : Nat) (name : String) : Option Value :=
  match s with
  | byName fields => fields.lookup name
  | byPosition items => items[position]?

variable {α : Type}

/-- A field that has to be there. -/
def required (s : Section) (position : Nat) (name : String) (read : Value → Option α) : Option α :=
  (s.get? position name).bind read

def field (s : Section) (position : Nat) (name : String) (read : Value → Option α) (default : α) :
    Option α :=
  match s.get? position name with
  | none => some default
  | some v => read v

/-- A field without a default, which only a table can leave out. -/
def optional (s : Section) (position : Nat) (name : String) (read : Value → Option α) :
    Option (Option α) :=
  match s, s.get? position name with
  | byName _, none => some none
  | byPosition _, none => none
  | _, some v => (read v).map some

end Section

/-! ## Fields -/

def text? : Value → Option String
  | .text s => some s
  | _ => none

def boolean? : Value → Option Bool
  | .boolean b => some b
  | _ => none

/-- A natural number below a bound. -/
def below? (bound : Nat) : Value → Option Nat
  | .integer n => if 0 ≤ n ∧ n < bound then some n.toNat else none
  | _ => none

def uint8? (v : Value) : Option UInt8 := (below? UInt8.size v).map Nat.toUInt8
def uint16? (v : Value) : Option UInt16 := (below? UInt16.size v).map Nat.toUInt16
def uint32? (v : Value) : Option UInt32 := (below? UInt32.size v).map Nat.toUInt32
def uint64? (v : Value) : Option UInt64 := (below? UInt64.size v).map Nat.toUInt64

/-! ## The configuration -/

def Broker.ofSection? (s : Section) : Option Broker := do
  return {
    url := ← s.optional 0 "broker_url" text?
    host := ← s.optional 1 "host" text?
    port := ← s.optional 2 "port" uint16?
    clientId := ← s.optional 3 "client_id" text?
    usernameVariable := ← s.optional 4 "username_env" text?
    passwordVariable := ← s.optional 5 "password_env" text?
    keepAliveSecs := ← s.field 6 "keep_alive_secs" uint16? 0
    cleanSession := ← s.field 7 "clean_session" boolean? true }

def Tuning.ofSection? (s : Section) : Option Tuning := do
  return {
    maxRetries := ← s.field 0 "max_retries" uint32? 5
    baseDelay := ← s.field 1 "base_delay_ms" uint64? 1000
    maxDelay := ← s.field 2 "max_delay_ms" uint64? 30000
    connectTimeoutSecs := ← s.field 3 "connect_timeout_secs" uint64? 10
    syncInterval := ← s.field 4 "sync_interval_ms" uint64? 100
    retryUnknown := ← s.field 5 "retry_unknown_errors" boolean? true
    sendBuffer := ← s.field 6 "send_buffer_size" uint64? 2048
    recvBuffer := ← s.field 7 "recv_buffer_size" uint64? 1024 }

def Subscription.ofSection? (s : Section) : Option Subscription := do
  return {
    topic := ← s.required 0 "topic" text?
    qos := ← s.field 1 "qos" uint8? 0 }

def subscriptions? : Value → Option (List Subscription)
  | .array items => items.mapM fun v => (Section.ofValue? v).bind Subscription.ofSection?
  | _ => none

def ofFields? (fields : List (String × Value)) : Option Config := do
  let s := Section.byName fields
  return {
    broker := ← s.field 0 "mqtt" (fun v => (Section.ofValue? v).bind Broker.ofSection?) {}
    session := ← s.field 1 "session" (fun v => (Section.ofValue? v).bind Tuning.ofSection?) {}
    subscriptions := ← s.field 2 "subscriptions" subscriptions? [] }

def ofToml (text : String) : Except ConfigError Config :=
  match (Toml.document? text).bind ofFields? with
  | some c => .ok c
  | none => .error .malformed

/-! ## Files -/

/-- What a path leads to. -/
abbrev FileContent := Except ReadError Bytes

def read (file : FileContent) : Except ConfigError Config := do
  let bytes ← file.mapError .unreadable
  match Bytes.toText? bytes with
  | none => throw (.unreadable .notText)
  | some text => ofToml text

end MqttLink.Config
