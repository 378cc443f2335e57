import MqttLink.Command.Words
import MqttLink.Environment
import MqttLink.Text.Numeral

/-!
# What a command line asks for

The options of the broker may stand before the command or behind it, or come from the environment.
What stands behind counts first, and the environment last.
-/

namespace MqttLink

/-- What is to be done. -/
inductive Task where
  | monitor (topics : List String) (qos : UInt8) (capacity : Nat)
  | publish (topic message : String) (qos : UInt8) (retain : Bool)
  /-- Checks the configuration, and perhaps shows it. -/
  | config (isShown : Bool)
  deriving DecidableEq, Repr

/-- What counts before the configuration. -/
structure Overrides where
  host : Option String := none
  port : Option UInt16 := none
  clientId : Option String := none
  username : Option String := none
  password : Option String := none
  deriving DecidableEq, Repr

structure Invocation where
  configPath : Option String := none
  verbosity : Nat := 0
  overrides : Overrides := {}
  task : Task
  deriving DecidableEq, Repr

namespace Command

/-! ## Options -/

def anyText (_ : String) : Bool := true

def helpOption : Opt := { name := "help", short := some 'h', use := .help }

/-- A port has sixteen bits. -/
def port? (s : String) : Option UInt16 := (Text.integerBelow? UInt16.size s).map Nat.toUInt16

def qos? (s : String) : Option UInt8 := (Text.integerBelow? UInt8.size s).map Nat.toUInt8

def capacity? (s : String) : Option Nat := Text.naturalBelow? UInt64.size s

def sharedOptions : List Opt :=
  [{ name := "config", short := some 'c', use := .value (!·.isEmpty) },
   { name := "verbose", short := some 'v', use := .count },
   { name := "host", use := .value anyText },
   { name := "port", use := .value fun s => (port? s).isSome },
   { name := "client-id", use := .value anyText },
   { name := "username", use := .value anyText },
   { name := "password", use := .value anyText },
   helpOption]

def qosOption : Opt := { name := "qos", short := some 'q', use := .value fun s => (qos? s).isSome }

def outer : Grammar where
  options := { name := "version", short := some 'V', use := .version } :: sharedOptions
  words := .command

def monitor : Grammar where
  options :=
    qosOption :: { name := "queue", use := .value fun s => (capacity? s).isSome } :: sharedOptions
  words := .any

def publish : Grammar where
  options := qosOption :: { name := "retain", short := some 'r', use := .flag } :: sharedOptions
  words := .atMost 2

def config : Grammar where
  options := { name := "show", use := .flag } :: sharedOptions
  words := .atMost 0

/-! ## The environment -/

/-- The variable that stands in for an option. -/
def standIns : List (String × String) :=
  [("host", "MQTT_HOST"), ("port", "MQTT_PORT"), ("client-id", "MQTT_CLIENT_ID"),
   ("username", "MQTT_USERNAME"), ("password", "MQTT_PASSWORD")]

/-- Whether a variable that is looked at holds what its option accepts. -/
def variableIsFine (e : Environment) (option name : String) : Bool :=
  match e.getBytes? name with
  | none => true
  | some bytes => (Bytes.toText? bytes).any fun s => option != "port" || (port? s).isSome

/-- A variable is looked at wherever its option could have been given and was not. -/
def environmentIsFine (e : Environment) (before behind : Found) : Bool :=
  standIns.all fun (option, name) =>
    ((before.value? option).isSome && (behind.value? option).isSome) || variableIsFine e option name

/-- The value of an option, from wherever it comes. -/
def pick (e : Environment) (before behind : Found) (name : String) : Option String :=
  behind.value? name <|> before.value? name <|> (standIns.lookup name).bind e.get?

def overrides (e : Environment) (before behind : Found) : Overrides where
  host := pick e before behind "host"
  port := (pick e before behind "port").bind port?
  clientId := pick e before behind "client-id"
  username := pick e before behind "username"
  password := pick e before behind "password"

/-! ## Commands -/

def qosOf (f : Found) : UInt8 := ((f.value? "qos").bind qos?).getD 0

def capacityOf (f : Found) : Nat := ((f.value? "queue").bind capacity?).getD 256

structure Subcommand where
  name : String
  grammar : Grammar
  task? : Found → Option Task

def commands : List Subcommand :=
  [{ name := "monitor"
     grammar := monitor
     task? := fun f => some (.monitor f.words (qosOf f) (capacityOf f)) },
   { name := "publish"
     grammar := publish
     task? := fun f =>
       match f.words with
       | [topic, message] => some (.publish topic message (qosOf f) (f.has "retain"))
       | _ => none },
   { name := "config"
     grammar := config
     task? := fun f => some (.config (f.has "show")) }]

/-- Asking for help about something that does not exist is wrong. -/
def askHelp (names : List String) : Stop :=
  match names with
  | [] => .help
  | [name] => if name = "help" ∨ commands.any (·.name == name) then .help else .wrong
  | _ => .wrong

/-- How often an option was given; behind the command counts first. -/
def countOf (before behind : Found) (name : String) : Nat :=
  if behind.has name then behind.count name else before.count name

def invocation (e : Environment) (args : List String) : Except Stop Invocation := do
  let (before, rest) ← outer.read args {}
  match rest with
  | [] => throw .wrong
  | name :: rest =>
    if name = "help" then throw (askHelp rest)
    match commands.find? (·.name == name) with
    | none => throw .wrong
    | some command =>
      let (behind, _) ← command.grammar.read rest {}
      match command.task? behind with
      | none => throw .wrong
      | some task =>
        if !environmentIsFine e before behind then throw .wrong
        return {
          configPath := pick {} before behind "config"
          verbosity := countOf before behind "verbose"
          overrides := overrides e before behind
          task }

end Command

end MqttLink
