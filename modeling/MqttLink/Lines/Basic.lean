import MqttLink.Client.Farewell
import MqttLink.Link
import MqttLink.Session.Step

/-!
# Lines

A dial ends with an answer: refused, unknown, or a link. The clients on the links speak the real
protocol, and what the far side of a link does is up to whoever answers. Here a script answers: every
dial gets its next line.
-/

namespace MqttLink

inductive Answer where
  | refused (reason : String)
  | unresolved (reason : String)
  /-- A link on which the far side begins with these acts. -/
  | link (acts : List Act)
  deriving DecidableEq, Repr

structure Line where
  /-- How long it rings before the answer. -/
  delay : Nat := 0
  answer : Answer
  deriving DecidableEq, Repr

/-- Where somebody wanted to connect to, and how long they would have waited. -/
structure Dialed where
  host : String
  port : String
  timeout : Nat
  deriving DecidableEq, Repr

structure Lines where
  script : List Line
  /-- Every link there has been, the latest one last. -/
  links : Array Link := #[]
  dialed : Array Dialed := #[]
  /-- The number of the next who has to wait. -/
  number : Nat := 0

namespace Lines

/-- A client, and the number of its link. -/
structure Speaker where
  client : MqttLink.Client
  socket : Nat
  handler : Option Handler

inductive Dial where
  /-- The answer is known, and comes when it is time. -/
  | ringing (until_ : Appointment) (answer : Answer) (settings : Settings) (plan : ConnectPlan)
    (handler : Option Handler)
  /-- The answer is not known yet. It will be the next line. -/
  | unanswered (settings : Settings) (plan : ConnectPlan) (handler : Option Handler)
  /-- A handshake that had to wait has a number. -/
  | shaking (handshake : Handshake) (number : Option Nat) (speaker : Speaker)
  /-- Over before anything could be sent. -/
  | failed (error : SessionError)
  /-- Nothing ever comes of it: the deadline of its handshake cannot be told. -/
  | stranded

structure Leave where
  /-- Nothing if the client could not even begin to say goodbye. -/
  farewell : Option Farewell
  speaker : Speaker

def appoint (due : Nat) (ls : Lines) : Appointment × Lines :=
  (⟨due, ls.number⟩, { ls with number := ls.number + 1 })

/-! ## Links -/

def change (socket : Nat) (f : Link → Link) (ls : Lines) : Lines :=
  { ls with links := ls.links.modify socket f }

def close (socket : Nat) (ls : Lines) : Lines := ls.change socket fun l => { l with closed := true }

/-- Lets a client work on its link. -/
def onLink {α : Type} (work : MqttLink.Client → Link → α × MqttLink.Client × Link) (s : Speaker)
    (ls : Lines) : α × Speaker × Lines :=
  let link := ls.links[s.socket]?.getD {}
  let ls := ls.change s.socket fun _ => {}
  let (result, client, link) := work s.client link
  (result, { s with client }, ls.change s.socket fun _ => link)

/-! ## Dialing -/

def dial (now : Nat) (settings : Settings) (plan : ConnectPlan) (handler : Option Handler)
    (ls : Lines) : Dial × Lines :=
  let line := ls.script.headD { answer := .refused "refused" }
  let (time, ls) := ls.appoint (Clock.after now line.delay)
  (.ringing time line.answer settings plan handler,
    { ls with
      script := ls.script.tail
      dialed := ls.dialed.push ⟨plan.host, plan.port, settings.connectTimeout⟩ })

/-- A new client on a new link. -/
def pickUp (now : Nat) (acts : List Act) (settings : Settings) (plan : ConnectPlan)
    (handler : Option Handler) (ls : Lines) : Dial × Lines :=
  let link := acts.foldl Link.act {}
  let client := MqttLink.Client.new settings.buffers.send.toNat settings.buffers.recv.toNat handler.isSome now
  let socket := ls.links.size
  let ls := { ls with links := ls.links.push link }
  match client.greet now plan.options settings.connectTimeout with
  | (some (.ok handshake), client) => (.shaking handshake none ⟨client, socket, handler⟩, ls)
  | (some (.error f), _) => (.failed (.protocol f "MQTT connect failed"), ls.close socket)
  | (none, _) => (.stranded, ls.close socket)

/-- Whether a handshake has come as far as to wait for something else. -/
def isFurther (h h' : Handshake) (s s' : Speaker) : Bool :=
  (h.stage != .awaiting && h'.stage == .awaiting) ||
  s.client.received.length != s'.client.received.length

/-- Who has to wait again takes another number. -/
def pollShaking (now : Nat) (h : Handshake) (number : Option Nat) (s : Speaker) (ls : Lines) :
    Progress Dial (Except SessionError Speaker) × Lines :=
  match onLink (h.poll now) s ls with
  | (.waiting h', s', ls) =>
    if number.isSome && !isFurther h h' s s' then (.waiting (.shaking h' number s'), ls)
    else
      let (time, ls) := ls.appoint h'.deadline
      (.waiting (.shaking h' (some time.number) s'), ls)
  | (.done (.ok ()), s, ls) => (.done (.ok s), ls)
  | (.done (.error f), s, ls) => (.done (.error (.protocol f "MQTT connect failed")), ls.close s.socket)

/-- What follows an answer. -/
def takeAnswer (now : Nat) (answer : Answer) (settings : Settings) (plan : ConnectPlan)
    (handler : Option Handler) (ls : Lines) : Progress Dial (Except SessionError Speaker) × Lines :=
  match answer with
  | .refused reason => (.done (.error (.unreachable plan.host plan.port reason)), ls)
  | .unresolved reason => (.done (.error (.unresolved plan.host plan.port reason)), ls)
  | .link acts =>
    match ls.pickUp now acts settings plan handler with
    | (.failed e, ls) => (.done (.error e), ls)
    | (.shaking h number s, ls) => pollShaking now h number s ls
    | (d, ls) => (.waiting d, ls)

def pollDial (now : Nat) (d : Dial) (ls : Lines) :
    Progress Dial (Except SessionError Speaker) × Lines :=
  match d with
  | .failed e => (.done (.error e), ls)
  | .stranded => (.waiting d, ls)
  | .shaking h number s => pollShaking now h number s ls
  | .ringing time answer settings plan handler =>
    if now < time.due then (.waiting d, ls) else ls.takeAnswer now answer settings plan handler
  | .unanswered settings plan handler =>
    match ls.script with
    | [] => (.waiting d, ls)
    | line :: rest => { ls with script := rest }.takeAnswer now line.answer settings plan handler

def dialWake : Dial → Appointment
  | .ringing time .. => time
  | .shaking h number _ => ⟨h.deadline, number.getD 0⟩
  | .unanswered .. | .failed _ => ⟨0, 0⟩
  | .stranded => ⟨Clock.endOfTime, 0⟩

def hangUp (d : Dial) (ls : Lines) : Lines :=
  match d with
  | .ringing .. | .unanswered .. | .failed _ | .stranded => ls
  | .shaking _ _ s => ls.close s.socket

/-! ## Talking -/

/-- An operation that needs no link. -/
def queueing (op : MqttLink.Client → Except Fault Unit × MqttLink.Client) (s : Speaker)
    (ls : Lines) : Except Fault Unit × Speaker × Lines :=
  let (result, client) := op s.client
  (result, { s with client }, ls)

def sync (now : Nat) (s : Speaker) (ls : Lines) :
    Except Fault Unit × List (Handler × Message) × Speaker × Lines :=
  let (result, s, ls) := onLink (fun c l => c.sync now l) s ls
  let (messages, client) := s.client.collect
  (result, s.handler.elim [] fun h => messages.map (h, ·), { s with client }, ls)

def leave (now : Nat) (s : Speaker) (ls : Lines) : Leave × Lines :=
  match s.client.leave now with
  | (.ok farewell, client) => (⟨some farewell, { s with client }⟩, ls)
  | (.error _, client) => (⟨none, { s with client }⟩, ls)

def pollLeave (now : Nat) (x : Leave) (ls : Lines) : Progress Leave Speaker × Lines :=
  match x.farewell with
  | none => (.done x.speaker, ls)
  | some f =>
    match onLink (f.poll now) x.speaker ls with
    | (.waiting f, s, ls) => (.waiting ⟨some f, s⟩, ls)
    | (.done _, s, ls) => (.done s, ls)

def backend : Backend Lines Speaker Dial Leave where
  appoint := appoint
  dial := dial
  pollDial := pollDial
  dialWake := dialWake
  hangUp := hangUp
  fault s := s.client.fault
  publish m qos retain := queueing (MqttLink.Client.publish m qos retain)
  subscribe topic qos := queueing (MqttLink.Client.subscribe topic qos)
  unsubscribe topic := queueing (MqttLink.Client.unsubscribe topic)
  sync := sync
  leave := leave
  pollLeave := pollLeave
  leaveWake x := (x.farewell.map (·.deadline)).getD 0
  drop s ls := ls.close s.socket

/-! ## The far side

What happens on any link but the latest makes no difference. -/

def latest? (ls : Lines) : Option Link := ls.links.back?

def changeLatest (f : Link → Link) (ls : Lines) : Lines := ls.change (ls.links.size - 1) f

def nextDue (ls : Lines) : Option Nat := ls.latest?.bind Link.nextDue

def isReady (now : Nat) (before : Option Nat) (ls : Lines) : Bool :=
  ls.latest?.any fun l =>
    l.agenda.head?.any (Link.comesBy now before) || (before.isNone && !l.fresh.isEmpty)

/-- The waits of the latest link begin. -/
def begin (now : Nat) (ls : Lines) : Lines :=
  match ls.latest? with
  | none => ls
  | some l =>
    let (number, l) := l.begin now ls.number
    { ls.changeLatest fun _ => l with number }

def elapse (now : Nat) (before : Option Nat) (ls : Lines) : Lines :=
  let ls := ls.changeLatest (·.elapse now before)
  if before.isNone then ls.begin now else ls

def outside : Outside Lines := ⟨nextDue, isReady, elapse⟩

end Lines

end MqttLink
