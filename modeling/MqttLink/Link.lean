import MqttLink.Clock
import MqttLink.Stream

/-!
# A stream with a scripted far side

A `Link` is a byte stream whose far side is a record: chunks to read, room to write, and faults.
The far side does `Deed`s, at once or after a wait. Who waits for something takes a number first, and
of what comes at one time the lower number comes first.
-/

namespace MqttLink

/-- Something that the far side does. -/
inductive Deed where
  | feed (bytes : Bytes)
  | finish
  | failReads
  | setRoom (room : Option Nat)
  | failWrites
  | acceptNothing
  | failFlush
  | stallFlush
  deriving DecidableEq, Repr

/-- A deed now, or an act later. -/
inductive Act where
  | now (deed : Deed)
  | later (wait : Nat) (act : Act)
  deriving DecidableEq, Repr

/-- More than one for each wait, so that a wait has a beginning and an end. -/
def Act.size : Act → Nat
  | now _ => 0
  | later _ a => a.size + 2

structure Link where
  /-- Chunks not read yet, the next one first. -/
  inbox : List Bytes := []
  ended : Bool := false
  readFails : Bool := false
  /-- How many more bytes may be written; no bound if absent. -/
  room : Option Nat := none
  writeFails : Bool := false
  acceptsNothing : Bool := false
  flushFails : Bool := false
  flushStalls : Bool := false
  accepted : Array UInt8 := #[]
  isShutdown : Bool := false
  /-- The client has let go of it. -/
  closed : Bool := false
  /-- Acts to come whose wait has not begun, with how long it is. -/
  fresh : List (Nat × Act) := []
  /-- Acts to come, the earliest first. -/
  agenda : List (Appointment × Act) := []
  deriving Repr

namespace Link

/-! ## The near side -/

/-- The chunks come first, then a failure, then the end. -/
def read (l : Link) : Reading × Link :=
  match l.inbox with
  | chunk :: rest => (.data chunk, { l with inbox := rest })
  | [] => if l.readFails then (.failed, l) else if l.ended then (.ended, l) else (.blocked, l)

/-- As much as the bound leaves room for. -/
def accept (l : Link) (bytes : Bytes) : Nat :=
  match l.room with
  | none => bytes.length
  | some n => min n bytes.length

def write (l : Link) (bytes : Bytes) : Writing × Link :=
  if l.writeFails then (.failed, l)
  else if l.acceptsNothing then (.accepted 0, l)
  else if l.room = some 0 then (.blocked, l)
  else
    let n := l.accept bytes
    (.accepted n, { l with room := l.room.map (· - n), accepted := l.accepted ++ bytes.take n })

def flush (l : Link) : Flushing × Link :=
  if l.flushFails then (.failed, l) else if l.flushStalls then (.blocked, l) else (.flushed, l)

def shutdown (l : Link) : Bool × Link := (true, { l with isShutdown := true })

def sent (l : Link) : Bytes := l.accepted.toList

theorem accept_le (l : Link) (bytes : Bytes) : l.accept bytes ≤ bytes.length := by
  unfold accept
  split
  · exact Nat.le_refl _
  · exact Nat.min_le_right _ _

theorem write_accepted {l l' : Link} {bytes : Bytes} {n : Nat}
    (h : l.write bytes = (.accepted n, l')) :
    n ≤ bytes.length ∧ l'.sent = l.sent ++ bytes.take n := by
  unfold write at h
  split at h
  · simp at h
  · split at h
    · cases h
      simp
    · split at h
      · simp at h
      · cases h
        exact ⟨l.accept_le bytes, by simp [sent]⟩

instance : ByteStream Link where
  read := read
  write := write
  flush := flush
  shutdown := shutdown
  sent := sent
  backlog l := l.inbox.length
  backlog_read := by
    intro s b s' h
    unfold read at h
    split at h
    · cases h
      simp_all
    · split at h
      · simp at h
      · split at h <;> simp at h
  sent_read := by
    intro s
    unfold read
    split
    · rfl
    · split
      · rfl
      · split <;> rfl
  write_le h := (write_accepted h).1
  sent_accepted h := (write_accepted h).2
  sent_refused := by
    intro s b w s' h hw
    unfold write at h
    split at h
    · cases h; rfl
    · split at h
      · cases h; exact absurd rfl (hw 0)
      · split at h
        · cases h; rfl
        · cases h; exact absurd rfl (hw _)
  sent_flush := by
    intro s
    unfold flush
    split
    · rfl
    · split <;> rfl
  sent_shutdown _ := rfl

/-! ## The far side -/

def perform (l : Link) : Deed → Link
  | .feed bytes => if bytes.isEmpty then l else { l with inbox := l.inbox ++ [bytes] }
  | .finish => { l with ended := true }
  | .failReads => { l with readFails := true }
  | .setRoom room => { l with room }
  | .failWrites => { l with writeFails := true }
  | .acceptNothing => { l with acceptsNothing := true }
  | .failFlush => { l with flushFails := true }
  | .stallFlush => { l with flushStalls := true }

/-- A wait does not begin before whoever is at work has to wait too. -/
def act (l : Link) : Act → Link
  | .now deed => l.perform deed
  | .later wait a => { l with fresh := l.fresh ++ [(wait, a)] }

/-- Insertion behind everything that is due no later. -/
def insertDue (a : Appointment) (act : Act) : List (Appointment × Act) → List (Appointment × Act)
  | [] => [(a, act)]
  | (b, other) :: rest =>
    if a.due < b.due then (a, act) :: (b, other) :: rest else (b, other) :: insertDue a act rest

/-- Begins one wait with a number, and says which number is the next one. No wait at all needs none. -/
def await (now : Nat) (wait : Nat) (act : Act) (number : Nat) (l : Link) : Nat × Link :=
  if wait = 0 then (number, l.act act)
  else (number + 1,
    { l with agenda := insertDue ⟨Clock.after now wait, number⟩ act l.agenda })

/-- Begins all waits that have not begun. -/
def begin (now number : Nat) (l : Link) : Nat × Link :=
  l.fresh.foldl (fun (number, l) (wait, act) => l.await now wait act number)
    (number, { l with fresh := [] })

/-- The time of the next act. -/
def nextDue (l : Link) : Option Nat := l.agenda.head?.map (·.1.due)

/-- Whether an act comes by a time, and before a number if one is given. -/
def comesBy (now : Nat) (before : Option Nat) (entry : Appointment × Act) : Bool :=
  entry.1.due ≤ now && before.all (entry.1.number < ·)

/-- The acts that have come happen, in order. -/
def elapse (now : Nat) (before : Option Nat) (l : Link) : Link :=
  (l.agenda.takeWhile (comesBy now before)).foldl (fun l entry => l.act entry.2)
    { l with agenda := l.agenda.dropWhile (comesBy now before) }

/-- How often something can still begin or end here. -/
def toCome (l : Link) : Nat :=
  l.fresh.foldl (fun n entry => n + entry.2.size + 2) 0 +
    l.agenda.foldl (fun n entry => n + entry.2.size + 1) 0

end Link

end MqttLink
