import MqttLink.Lines.Basic
import MqttLink.Rehearsal.Ledger
import MqttLink.Session.Operation
import MqttLink.Session.Step

/-!
# A session on a virtual clock

The clock stands still while anybody can go on, and then jumps to the next time at which somebody
can.
-/

namespace MqttLink

def Ledger.outside : Outside Ledger := ⟨fun _ => none, fun _ _ _ => false, fun _ _ l => l⟩

structure Stage (ω κ δ φ : Type) where
  backend : Backend ω κ δ φ
  outside : Outside ω
  session : Session ω κ δ φ
  now : Nat := 0

namespace Stage

variable {ω κ δ φ : Type} (b : Backend ω κ δ φ) (o : Outside ω)

/-- Lets time pass up to a limit, or until the goal is reached. -/
def advance (goal : Session ω κ δ φ → Bool) (limit now : Nat) (x : Session ω κ δ φ) :
    Nat × Session ω κ δ φ :=
  let x := x.settle b o now
  if goal x ∨ limit ≤ now then (now, x)
  else advance goal limit (min limit (max (now + 1) ((x.wake b o).getD limit))) x
termination_by limit - now
decreasing_by omega

end Stage

/-! ## What a test does -/

namespace Stage

variable {ω κ δ φ : Type}

/-- Does something at once, and then lets everybody go on as far as they can. -/
def tell (f : Session ω κ δ φ → Session ω κ δ φ) (st : Stage ω κ δ φ) : Stage ω κ δ φ :=
  { st with session := (f st.session).settle st.backend st.outside st.now }

def sleep (time : Nat) (st : Stage ω κ δ φ) : Stage ω κ δ φ :=
  let (now, session) :=
    advance st.backend st.outside (fun _ => false) (Clock.after st.now time) st.now st.session
  { st with now, session }

/-- Lets time pass until the caller's operation is over, if it ever is. -/
def finish (st : Stage ω κ δ φ) : Option (Except SessionError Unit) × Stage ω κ δ φ :=
  let (now, session) :=
    advance st.backend st.outside (·.result?.isSome) Clock.endOfTime st.now st.session
  (session.result?, { st with now, session := { session with call := .idle } })

def connect (request : ConnectRequest) (handler : Option Handler) (st : Stage ω κ δ φ) :
    Option (Except SessionError Unit) × Stage ω κ δ φ :=
  { st with session := st.session.connect st.backend st.now request handler }.finish

def disconnect (st : Stage ω κ δ φ) : Stage ω κ δ φ :=
  { st with session := st.session.disconnect st.backend st.now }.finish.2

def operate (op : Operation) (st : Stage ω κ δ φ) : Except SessionError Unit × Stage ω κ δ φ :=
  let (result, session) := st.session.operate st.backend op
  (result, { st with session }.tell id)

/-- Takes the messages that have been handed over since the last time. -/
def collect (st : Stage ω κ δ φ) : List (Handler × Message) × Stage ω κ δ φ :=
  (st.session.delivered.toList, { st with session := { st.session with delivered := #[] } })

end Stage

end MqttLink
