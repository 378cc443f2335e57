import MqttLink.Client.Farewell
import MqttLink.Link

/-!
# A client alone

One client on one link and a virtual clock, without a session around it. The clock moves only while
somebody waits, and the far side acts only then.
-/

namespace MqttLink

structure Solo where
  client : Client
  link : Link := {}
  now : Nat := 0

namespace Solo

def new (sendCapacity recvCapacity : Nat) (listening : Bool) : Solo where
  client := Client.new sendCapacity recvCapacity listening 0

/-- All waits begin. Nobody waits beside the far side, so that numbers make no difference. -/
def beginAll : Nat → Solo → Solo
  | 0, x => x
  | fuel + 1, x =>
    if x.link.fresh.isEmpty then x
    else beginAll fuel { x with link := (x.link.begin x.now 0).2 }

def begin (x : Solo) : Solo := x.beginAll x.link.toCome

def act (a : Act) (x : Solo) : Solo := { x with link := x.link.act a }

/-- The clock jumps, and what comes by then happens. -/
def jump (now : Nat) (x : Solo) : Solo :=
  let now := max x.now now
  { x with now, link := x.link.elapse now none }.begin

/-! ## Waiting -/

/-- Polls until the work is done. Between two polls waits begin, or the clock jumps to the next act or,
if that is no later, to the deadline; an act at the deadline comes too late. -/
def await {π : Type} (poll : Nat → π → Client → Link → Progress π (Except Fault Unit) × Client × Link)
    (deadline : π → Nat) : Nat → π → Solo → Except Fault Unit × Solo
  | 0, _, x => (.error .socketError, x)
  | fuel + 1, work, x =>
    match poll x.now work x.client x.link with
    | (.done result, client, link) => (result, { x with client, link })
    | (.waiting work, client, link) =>
      let x := { x with client, link }
      if !link.fresh.isEmpty then await poll deadline fuel work x.begin
      else match link.nextDue.filter (· < deadline work) with
      | some due => await poll deadline fuel work (x.jump due)
      | none => await poll deadline fuel work { x with now := max x.now (deadline work) }

/-- Between two polls, but for three of them, something begins or ends. -/
def polls (x : Solo) : Nat := x.link.toCome + 3

/-- A connect whose deadline cannot be told is the end of everything. -/
def connect (options : ConnectOptions) (timeout : Nat) (x : Solo) : Option (Except Fault Unit × Solo) :=
  match x.client.greet x.now options timeout with
  | (none, _) => none
  | (some (.error f), client) => some (.error f, { x with client })
  | (some (.ok h), client) => some (await Handshake.poll (·.deadline) x.polls h { x with client })

def disconnect (x : Solo) : Except Fault Unit × Solo :=
  match x.client.leave x.now with
  | (.error f, client) => (.error f, { x with client })
  | (.ok f, client) => await Farewell.poll (·.deadline) x.polls f { x with client }

def sleepUntil (time : Nat) : Nat → Solo → Solo
  | 0, x => { x with now := time }
  | fuel + 1, x =>
    match x.link.nextDue.filter (· ≤ time) with
    | some due => sleepUntil time fuel (x.jump due)
    | none => { x with now := time }

def sleep (time : Nat) (x : Solo) : Solo :=
  x.begin.sleepUntil (Clock.after x.now time) x.link.toCome

/-! ## Not waiting -/

def queueing (op : Client → Except Fault Unit × Client) (x : Solo) : Except Fault Unit × Solo :=
  let (result, client) := op x.client
  (result, { x with client })

def publish (m : Message) (qos : QoS) (retain : Bool) : Solo → Except Fault Unit × Solo :=
  queueing (Client.publish m qos retain)

/-- Publishes up to a number of times and counts the successes before the first failure. -/
def publishTimes (m : Message) (qos : QoS) (retain : Bool) (times : Nat) (x : Solo) :
    Nat × Except Fault Unit × Solo :=
  go times 0 x
where
  go : Nat → Nat → Solo → Nat × Except Fault Unit × Solo
    | 0, done, x => (done, .ok (), x)
    | left + 1, done, x =>
      match publish m qos retain x with
      | (.ok (), x) => go left (done + 1) x
      | (.error f, x) => (done, .error f, x)

def subscribe (topic : String) (qos : QoS) : Solo → Except Fault Unit × Solo :=
  queueing (Client.subscribe topic qos)

def unsubscribe (topic : String) : Solo → Except Fault Unit × Solo :=
  queueing (Client.unsubscribe topic)

def sync (x : Solo) : Except Fault Unit × Solo :=
  let (result, client, link) := x.client.sync x.now x.link
  (result, { x with client, link })

/-- Takes the messages that have been handed over since the last time. -/
def collect (x : Solo) : List Message × Solo :=
  let (messages, client) := x.client.collect
  (messages, { x with client })

end Solo

end MqttLink
