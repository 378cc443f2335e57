import MqttLink.Command.Plan
import MqttLink.Inbox
import MqttLink.Lines.Attended
import MqttLink.Session.Journal
import MqttLink.Session.Operation
import MqttLink.Text.Lossy

/-!
# A job under way

A run owns a session on attended lines. It goes on whenever the attendant has done something or time
has passed, and gathers what it has to say until somebody prints it.
-/

namespace MqttLink

/-! ## Signals -/

/-- A signal that asks for the end. -/
inductive Interrupt where
  | hangUp
  | keyboard
  | terminate
  deriving DecidableEq, Repr

namespace Interrupt

def number : Interrupt → Nat
  | hangUp => 1
  | keyboard => 2
  | terminate => 15

def name : Interrupt → String
  | hangUp => "SIGHUP"
  | keyboard => "SIGINT"
  | terminate => "SIGTERM"

/-- The code of a program that ends because of a signal. -/
def exit (i : Interrupt) : Nat := 128 + i.number

end Interrupt

/-! ## Runs -/

/-- Where a run stands. -/
inductive Run.Stage where
  | connecting
  | watching
  /-- On the way out, with what it came to. -/
  | leaving (result : Except SessionError Nat)
  | over (exit : Nat)

structure Run where
  job : Command.Job
  session : Session Lines Lines.Speaker Lines.Dial Lines.Leave
  stage : Run.Stage := .connecting
  inbox : Inbox
  /-- What it has to say, the first thing first. -/
  output : Array Output := #[]

namespace Run

open Command (Work say)

/-- The exit code for a session that has given up. -/
def exitLost : Nat := 2

/-- The exit code of a run that has no way on. -/
def exitStranded : Nat := 101

def add (o : Output) (r : Run) : Run := { r with output := r.output.push o }

def addAll (entries : List Log.Entry) (r : Run) : Run := entries.foldl (fun r e => r.add (.entry e)) r

/-- Takes what there is to say. -/
def collect (r : Run) : List Output × Run := (r.output.toList, { r with output := #[] })

def exit? (r : Run) : Option Nat :=
  match r.stage with
  | .over exit => some exit
  | .connecting | .watching | .leaving _ => none

/-! ## The session -/

/-- The session has made a step. -/
def become (session : Session Lines Lines.Speaker Lines.Dial Lines.Leave) (r : Run) : Run :=
  { r.addAll (Journal.ofStep r.session session) with session }

def settleIn (now : Nat) : Nat → Run → Run
  | 0, r => r
  | steps + 1, r =>
    match r.session.step Lines.attended Lines.outside now with
    | (true, session) => settleIn now steps (r.become session)
    | (false, session) => { r with session }

/-- Lets the session do all that it can do now. -/
def settle (now : Nat) (r : Run) : Run := r.settleIn now stepsPerInstant

def operate (op : Operation) (r : Run) : Except SessionError Unit × Run :=
  let (result, session) := r.session.operate Lines.attended op
  let trouble := match result with
    | .ok () => []
    | .error e => Journal.operationTrouble e
  (result, (r.addAll trouble).become session)

/-- A message that finds the inbox full is dropped, and that is said. -/
def receive (m : Message) (r : Run) : Run :=
  if r.inbox.capacity ≤ r.inbox.messages.length then
    r.add (.entry ⟨.inbox, .warn, "Receive queue full, dropping message", ["topic"]⟩)
  else { r with inbox := r.inbox.deliver m }

/-- Moves what has been delivered into the inbox. -/
def receiveAll (r : Run) : Run :=
  let messages := r.session.delivered
  messages.foldl (fun r m => r.receive m.2)
    { r with session := { r.session with delivered := #[] } }

/-! ## The work -/

def handlerOf : Work → Option Handler
  | .monitor .. => some 0
  | .publish .. => none

def capacityOf : Work → Nat
  | .monitor _ capacity => capacity
  | .publish .. => 1

/-- The session begins to connect. -/
def start (now : Nat) (job : Command.Job) (said : List Output) : Run :=
  let session := { settings := job.settings, outside := { script := [] } }
  let r : Run := { job, session, inbox := Inbox.new (capacityOf job.work), output := said.toArray }
  r.become (r.session.connect Lines.attended now job.request (handlerOf job.work))

/-- Tears the session down. -/
def leave (now : Nat) (result : Except SessionError Nat) (r : Run) : Run :=
  { r.become (r.session.disconnect Lines.attended now) with stage := .leaving result }

/-- Subscribes one by one, up to the first failure. -/
def subscribeAll : List (String × QoS) → Run → Except SessionError Unit × Run
  | [], r => (.ok (), r)
  | (topic, qos) :: rest, r =>
    match r.operate (.subscribe topic qos) with
    | (.ok (), r) => subscribeAll rest (r.add (say .info "Subscribed" ["topic", "qos"]))
    | (.error e, r) => (.error e, r)

/-- What there is to do once the session is connected. -/
def begin (now : Nat) (r : Run) : Run :=
  match r.job.work with
  | .publish message qos retain =>
    let (result, r) := r.operate (.publish message qos retain)
    r.leave now (result.map fun () => 0)
  | .monitor topics _ =>
    match r.subscribeAll topics with
    | (.error e, r) => r.leave now (.error e)
    | (.ok (), r) =>
      let r := if topics.isEmpty then
          r.add (say .warn "No topics to monitor; pass topics or add [[subscriptions]] to the config")
        else r
      { r with stage := .watching }

/-- A message as one line. -/
def line (m : Message) : String := m.topic ++ " " ++ Text.lossy m.payload ++ "\n"

def printAll (r : Run) : Run :=
  let (messages, inbox) := r.inbox.takeAll
  messages.foldl (fun r m => r.add (.text (line m))) { r with inbox }

/-- Prints until a signal comes or the session has given up. -/
def watch (now : Nat) (interrupt : Option Interrupt) (r : Run) : Run :=
  match interrupt with
  | some i =>
    (r.add (say .info ("Received " ++ i.name ++ ", shutting down gracefully..."))).leave now
      (.ok i.exit)
  | none =>
    if r.session.snapshot.status = .reconnectFailed then
      (r.add (say .error "MQTT connection permanently lost" ["reason"])).leave now (.ok exitLost)
    else r

def published : Work → List Output
  | .publish .. => [say .info "Published" ["topic", "bytes"]]
  | .monitor .. => []

/-- The last words. -/
def conclude (result : Except SessionError Nat) (r : Run) : Run :=
  match result with
  | .error e => { r.add (Command.failure e.message) with stage := .over 1 }
  | .ok exit =>
    let words := published r.job.work ++ [Command.success]
    { words.foldl (fun r o => r.add o) r with stage := .over exit }

/-- Nothing ever comes of the first dial. -/
def isStranded (r : Run) : Bool :=
  match r.session.call with
  | .dialing .stranded => true
  | _ => false

/-- Goes on as far as possible. -/
def step (now : Nat) (interrupt : Option Interrupt) (r : Run) : Run :=
  let r := (r.settle now).receiveAll
  match r.stage with
  | .connecting =>
    match r.session.result? with
    | none => if r.isStranded then { r with stage := .over exitStranded } else r
    | some (.error e) => r.conclude (.error e)
    | some (.ok ()) => r.begin now
  | .watching => r.printAll.watch now interrupt
  | .leaving result => if r.session.result?.isSome then r.conclude result else r
  | .over _ => r

end Run

end MqttLink
