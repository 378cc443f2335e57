import MqttLink.Command.Run
import MqttLink.Dial
import MqttLink.Log.Line
import Std.Async.DNS
import Std.Async.Signal
import Std.Async.TCP

/-!
# The program

It reads what a command needs, and then attends to the lines of a run: it dials for them, and carries
bytes between their links and sockets.
-/

namespace MqttLink.Program

open Std.Async (Async AsyncTask Signal)
open Std.Net (IPAddr SocketAddress)

abbrev Socket := Std.Async.TCP.Socket.Client

/-! ## What there is to read -/

/-- The number of an error of the system. Some of them come with a minus. -/
def errorNumber (code : UInt32) : Nat :=
  if code.toNat < UInt32.size / 2 then code.toNat else UInt32.size - code.toNat

/-- The errors of a resolver, from 3000 on, are none of the system. -/
def systemMessage (code : UInt32) (details : String) : String :=
  let number := errorNumber code
  details.capitalize ++ if number < 3000 then " (os error " ++ toString number ++ ")" else ""

def causeOf : IO.Error → String
  | .noFileOrDirectory _ code details | .inappropriateType _ code details
  | .permissionDenied _ code details | .resourceExhausted _ code details
  | .noSuchThing _ code details | .invalidArgument _ code details
  | .alreadyExists _ code details | .interrupted _ code details
  | .otherError code details | .resourceBusy code details | .resourceVanished code details
  | .unsupportedOperation code details | .hardwareFault code details
  | .unsatisfiedConstraints code details | .illegalOperation code details
  | .protocolError code details | .timeExpired code details => systemMessage code details
  | .unexpectedEof => "unexpected end of file"
  | .userError message => message

def readErrorOf (e : IO.Error) : ReadError :=
  match e with
  | .noFileOrDirectory .. => .missing
  | .inappropriateType _ code _ => if errorNumber code = 21 then .directory else .notDirectory
  | _ => .other (causeOf e)

def readFile (path : String) : IO Config.FileContent := do
  try return .ok (← IO.FS.readBinFile path).toList
  catch e => return .error (readErrorOf e)

def readEnvironment : IO Environment := do
  return Environment.ofBlock (← IO.FS.readBinFile "/proc/self/environ").toList

/-- The world as far as a command may look at it. -/
def readWorld (environment : Environment) (i : Invocation) : IO World := do
  let files ← (Command.candidates i).mapM fun path => return (path, ← readFile path)
  return { environment, files := fun path => (files.lookup path).getD (.error .missing) }

/-! ## Printing -/

def timestamp : IO String := do
  let now := (← Std.Time.Timestamp.now).toWallTime .zero
  return (Std.Time.PlainDateTime.ofWallTime now).format "uuuu-MM-dd'T'HH:mm:ss.SSSSSS'Z'"

def print (format : Log.Format) (filter : Log.Filter) (output : List Output) : IO Unit := do
  let stdout ← IO.getStdout
  for o in output.filter (Output.isKept filter) do
    match o with
    | .entry e => stdout.putStr (e.toLine format (← timestamp) ++ "\n")
    | .text s => stdout.putStr s
  stdout.flush

/-! ## Dialing -/

inductive Dialing where
  | resolving (addresses : AsyncTask (Array IPAddr)) (port : UInt16)
  | connecting (socket : Socket) (task : AsyncTask Unit) (deadline : Nat) (rest : List IPAddr)
    (port : UInt16)

/-- The result of a task that has one by now. -/
def poll {α : Type} (task : AsyncTask α) : IO (Option (Except IO.Error α)) := do
  if ← IO.hasFinished task then return some task.get else return none

def addressOf (port : UInt16) : IPAddr → SocketAddress
  | .v4 addr => .v4 { addr, port }
  | .v6 addr => .v6 { addr, port }

/-! ## Attending -/

/-- The bytes that may wait for a socket to take them. -/
def room : Nat := 65536

structure Wire where
  socket : Socket
  /-- Nothing once the far side has said everything. -/
  reading : Option (AsyncTask (Option ByteArray))
  sending : Option (AsyncTask Unit) := none

structure Attendant where
  run : Run
  /-- How many dials have been taken care of. -/
  dialed : Nat := 0
  dialing : Option Dialing := none
  wire : Option Wire := none
  signals : List (Interrupt × AsyncTask Int) := []

namespace Attendant

def lines (x : Attendant) : Lines := x.run.session.outside

def change (f : Lines → Lines) (x : Attendant) : Attendant :=
  { x with run := { x.run with session := { x.run.session with outside := f x.lines } } }

def answer (a : Answer) (x : Attendant) : Attendant :=
  { x.change (Lines.answer a) with dialing := none }

def read (socket : Socket) : IO (AsyncTask (Option ByteArray)) := Async.toIO (socket.recv? 4096)

/-- Tries the next address. -/
def tryNext (now timeout : Nat) (port : UInt16) (addresses : List IPAddr) (cause : Answer)
    (x : Attendant) : IO Attendant := do
  match addresses with
  | [] => return x.answer cause
  | addr :: rest =>
    let socket ← Std.Async.TCP.Socket.Client.mk
    let task ← Async.toIO (socket.connect (addressOf port addr))
    return { x with dialing := some (.connecting socket task (now + timeout) rest port) }

/-- Begins with the latest dial if nobody has so far. -/
def takeDial (x : Attendant) : IO Attendant := do
  match x.lines.dialed.back? with
  | none => return x
  | some d =>
    if x.lines.dialed.size = x.dialed then return x
    let x := { x with dialed := x.lines.dialed.size }
    match Network.portOf d.host d.port with
    | .error e => return x.answer (Lines.answerTo (.error e))
    | .ok port =>
      let task ← Async.toIO (Std.Async.DNS.getAddrInfo d.host d.port)
      return { x with dialing := some (.resolving task port) }

def pollDial (now : Nat) (x : Attendant) : IO Attendant := do
  let timeout := x.run.session.settings.connectTimeout
  match x.dialing with
  | none => return x
  | some (.resolving task port) =>
    match ← poll task with
    | none => return x
    | some (.error e) =>
      return x.answer (.unresolved ("failed to lookup address information: " ++ causeOf e))
    | some (.ok addresses) =>
      x.tryNext now timeout port addresses.toList (.unresolved "no addresses found")
  | some (.connecting socket task deadline rest port) =>
    match ← poll task with
    | some (.ok ()) =>
      socket.noDelay
      let wire := { socket, reading := some (← read socket) }
      return { x.answer (.link [.now (.setRoom (some room))]) with wire := some wire }
    | some (.error e) => x.tryNext now timeout port rest (.refused (causeOf e))
    | none =>
      if now < deadline then return x
      x.tryNext now timeout port rest (.refused ("timed out after " ++ toString timeout ++ "ms"))

/-- What the socket has read goes to the far side of the link. -/
def pollReading (w : Wire) (x : Attendant) : IO (Wire × Attendant) := do
  match w.reading with
  | none => return (w, x)
  | some task =>
    match ← poll task with
    | none => return (w, x)
    | some (.ok (some bytes)) =>
      return ({ w with reading := some (← read w.socket) }, x.change (.perform (.feed bytes.toList)))
    | some (.ok none) => return ({ w with reading := none }, x.change (.perform .finish))
    | some (.error _) => return ({ w with reading := none }, x.change (.perform .failReads))

/-- What has been written to the link goes to the socket, a piece at a time. -/
def pollSending (w : Wire) (x : Attendant) : IO (Wire × Attendant) := do
  let sent ← match w.sending with
    | none => pure (some (.ok ()))
    | some task => poll task
  match sent with
  | none => return (w, x)
  | some (.error _) => return ({ w with sending := none }, x.change (.perform .failWrites))
  | some (.ok ()) =>
    let (bytes, lines) := x.lines.collect
    let x := x.change fun _ => lines.perform (.setRoom (some room))
    if bytes.isEmpty then return ({ w with sending := none }, x)
    let task ← Async.toIO (w.socket.send ⟨bytes.toArray⟩)
    return ({ w with sending := some task }, x)

/-- A wire is cut once its link is closed and everything has been sent. -/
def pollWire (x : Attendant) : IO Attendant := do
  match x.wire with
  | none => return x
  | some w =>
    let (w, x) ← x.pollReading w
    let (w, x) ← x.pollSending w
    if w.sending.isNone ∧ x.lines.latest?.all (·.closed) then
      let _ ← Async.toIO w.socket.shutdown
      return { x with wire := none }
    return { x with wire := some w }

def listen (i : Interrupt) (signal : Signal) : IO (Interrupt × AsyncTask Int) := do
  return (i, ← (← Signal.Waiter.mk signal false).wait)

/-- Signals are listened to as soon as something is watched. -/
def pollSignals (x : Attendant) : IO (Option Interrupt × Attendant) := do
  match x.run.stage, x.signals with
  | .watching, [] =>
    let signals := [← listen .keyboard .sigint, ← listen .terminate .sigterm, ← listen .hangUp .sighup]
    return (none, { x with signals })
  | _, signals =>
    let caught ← signals.findM? fun (_, task) => IO.hasFinished task
    return (caught.map (·.1), x)

/-- How long a socket may take to send its last bytes, in milliseconds. -/
def patience : Nat := 2000

/-- Goes on until the run is over and its wire is cut. -/
partial def serve (say : List Output → IO Unit) (ending : Option Nat) (x : Attendant) : IO UInt32 := do
  let now ← IO.monoMsNow
  let x ← (← (← x.pollWire).takeDial).pollDial now
  let (interrupt, x) ← x.pollSignals
  let (output, run) := (x.run.step now interrupt).collect
  say output
  let x := { x with run }
  match run.exit? with
  | some exit =>
    let ending := ending.getD now
    if x.wire.isNone ∨ ending + patience ≤ now then return exit.toUInt32
    IO.sleep 2
    serve say (some ending) x
  | none =>
    IO.sleep 2
    serve say none x

end Attendant

/-! ## All of it -/

def run (args : List String) : IO UInt32 := do
  let environment ← readEnvironment
  match Command.invocation environment args with
  | .error stop =>
    let outcome := Command.stopped stop
    print .json [] outcome.output
    if stop = .wrong then (← IO.getStderr).putStr Command.help
    return outcome.exit.toUInt32
  | .ok i =>
    let say := print (Command.formatOf environment) (Command.filterOf environment i)
    match Command.planWith (← readWorld environment i) i with
    | .done outcome =>
      say outcome.output
      return outcome.exit.toUInt32
    | .connect job said =>
      Attendant.serve say none { run := Run.start (← IO.monoMsNow) job said }

end MqttLink.Program

def main (args : List String) : IO UInt32 := MqttLink.Program.run args
