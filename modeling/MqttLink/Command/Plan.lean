import MqttLink.Command.Invocation
import MqttLink.Config.Reader
import MqttLink.Config.Resolve
import MqttLink.Config.Writer
import MqttLink.Log.Filter
import MqttLink.Message

/-!
# From a command line to its work

Up to the first connection everything is decided by the arguments, the environment and the files.
-/

namespace MqttLink

/-- What the program finds when it starts. -/
structure World where
  environment : Environment := {}
  files : String → Config.FileContent

/-- Something that the program says. -/
inductive Output where
  | entry (e : Log.Entry)
  | text (s : String)
  deriving DecidableEq, Repr

/-- Only entries are filtered. -/
def Output.isKept (f : Log.Filter) : Output → Bool
  | entry e => f.keeps e
  | text _ => true

/-- What the program says, in order, and how it ends. -/
structure Outcome where
  exit : Nat
  output : List Output := []
  deriving DecidableEq, Repr

namespace Outcome

/-- All texts in one. -/
def stdout (o : Outcome) : String :=
  String.join (o.output.filterMap fun | .text s => some s | .entry _ => none)

def log (o : Outcome) : List Log.Entry :=
  o.output.filterMap fun | .entry e => some e | .text _ => none

end Outcome

/-! ## The configuration -/

namespace Overrides

def apply (o : Overrides) (c : Config) : Config :=
  { c with broker := { c.broker with
      host := o.host <|> c.broker.host
      port := o.port <|> c.broker.port
      clientId := o.clientId <|> c.broker.clientId } }

/-- The request of a configuration, with secrets from the command line before those of the
environment. A variable that is named has to be there, unless a password is given. -/
def request (e : Environment) (o : Overrides) (c : Config) : Except ConfigError ConnectRequest := do
  let r ← c.request e
  let password ← match o.password with
    | some p => pure (some p)
    | none => c.requirePassword e
  return { r with username := o.username <|> r.username, password }

end Overrides

namespace Command

def defaultPaths : List String := ["dx-mqtt.toml", "config/dx-mqtt.toml"]

def isThere : Config.FileContent → Bool
  | .error .missing | .error .notDirectory => false
  | _ => true

/-- The file that is named, or else the first of the usual ones that is there. -/
def pathOf (w : World) (i : Invocation) : Option String :=
  i.configPath <|> defaultPaths.find? fun path => isThere (w.files path)

/-- The files that may be looked at. -/
def candidates (i : Invocation) : List String := i.configPath.elim defaultPaths fun path => [path]

/-- No other file makes a difference. -/
theorem pathOf_congr {w w' : World} {i : Invocation}
    (h : ∀ path ∈ candidates i, w.files path = w'.files path) : pathOf w i = pathOf w' i := by
  unfold pathOf
  cases named : i.configPath with
  | some path => rfl
  | none =>
    have first := h "dx-mqtt.toml" (by simp [candidates, named, defaultPaths])
    have second := h "config/dx-mqtt.toml" (by simp [candidates, named, defaultPaths])
    simp [defaultPaths, List.find?, first, second]

/-- Only the configuration that results is checked. -/
def load (w : World) (i : Invocation) : Except ConfigError Config := do
  let c ← match pathOf w i with
    | some path => Config.read (w.files path)
    | none => pure {}
  let c := i.overrides.apply c
  c.validate
  return c

/-! ## The log -/

def levelOf (e : Environment) (i : Invocation) : Log.Level :=
  match i.verbosity with
  | 0 => Log.Level.ofName ((e.get? "LOG_LEVEL").getD "INFO")
  | 1 => .debug
  | _ => .trace

def filterOf (e : Environment) (i : Invocation) : Log.Filter :=
  match e.get? "RUST_LOG" with
  | some directives => Log.Filter.ofText directives
  | none => Log.Filter.upTo (levelOf e i)

def formatOf (e : Environment) : Log.Format := Log.Format.ofName ((e.get? "LOG_FORMAT").getD "compact")

/-! ## The work -/

def name : String := "dx-mqtt"

def versionNumber : String := "0.1.0"

/-- What to do with a broker. -/
inductive Work where
  /-- Watches topics, with an inbox of so many messages. -/
  | monitor (topics : List (String × QoS)) (capacity : Nat)
  | publish (message : Message) (qos : QoS) (retain : Bool)
  deriving DecidableEq, Repr

structure Job where
  settings : Settings
  request : ConnectRequest
  work : Work
  deriving DecidableEq, Repr

inductive Plan where
  | done (outcome : Outcome)
  /-- The job, and what has been said so far. -/
  | connect (job : Job) (output : List Output)

def say (level : Log.Level) (message : String) (details : List String := []) : Output :=
  .entry { level, message, details }

def help : String :=
  "Persistent MQTT session with autonomous reconnection\n\n" ++
  "Usage: " ++ name ++ " [OPTIONS] <COMMAND>\n\n" ++
  "Commands:\n" ++
  "  monitor  Subscribe and print received messages until interrupted\n" ++
  "  publish  Publish one message and exit\n" ++
  "  config   Validate configuration\n" ++
  "  help     Print this message or the help of the given subcommand(s)\n"

def stopped : Stop → Outcome
  | .wrong => { exit := 2 }
  | .help => { exit := 0, output := [.text help] }
  | .version => { exit := 0, output := [.text (name ++ " " ++ versionNumber ++ "\n")] }

/-- The last words of a command that failed, and of one that did not. -/
def failure (message : String) : Output := say .error ("Command failed: " ++ message)

def success : Output := say .info "Application shutdown complete"

/-- Shows and checks a configuration. -/
def showConfig (c : Config) (isShown : Bool) (said : List Output) : Outcome :=
  match if isShown then c.toToml.map fun s => [.text (s ++ "\n")] else .ok [] with
  | .error e => { exit := 1, output := said ++ [failure e.message] }
  | .ok shown =>
    { exit := 0
      output := said ++ shown ++ [say .info "Configuration validation complete", success] }

/-- The topics of the configuration come before those of the command line. -/
def topicsOf (c : Config) (topics : List String) (qos : UInt8) : List (String × QoS) :=
  c.subscriptions.map (fun s => (s.topic, QoS.ofLevel s.qos)) ++
  topics.map fun topic => (topic, QoS.ofLevel qos)

/-- Work for a broker needs a request. -/
def planWork (w : World) (i : Invocation) (c : Config) (said : List Output) (work : Work) : Plan :=
  match i.overrides.request w.environment c with
  | .error e => .done { exit := 1, output := said ++ [failure e.message] }
  | .ok request => .connect { settings := c.settings, request, work } said

def planWith (w : World) (i : Invocation) : Plan :=
  let said := say .info ("Starting " ++ name ++ " v" ++ versionNumber) ::
    (pathOf w i).toList.map fun path => say .info ("Loading configuration from: " ++ path)
  match load w i with
  | .error e =>
    .done { exit := 1, output := said ++ [say .error ("Failed to load configuration: " ++ e.message)] }
  | .ok c =>
    match i.task with
    | .config isShown => .done (showConfig c isShown said)
    | .monitor topics qos capacity =>
      planWork w i c said (.monitor (topicsOf c topics qos) capacity)
    | .publish topic message qos retain =>
      planWork w i c said (.publish ⟨topic, Bytes.ofText message⟩ (QoS.ofLevel qos) retain)

end Command

end MqttLink
