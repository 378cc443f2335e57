import MqttLink.Session.Call

/-!
# One instant

At one instant the caller goes first. The loop and what happens outside by itself follow in the order
of their numbers, and what has none comes last. Whoever is at work goes on until it has to wait. An
instant is over when none of them can go on.
-/

namespace MqttLink

/-- What happens outside by itself. A number may be told before which it has to happen. -/
structure Outside (ω : Type) where
  nextDue : ω → Option Nat
  isReady : Nat → Option Nat → ω → Bool
  elapse : Nat → Option Nat → ω → ω

/-- How many steps may follow one another without time passing. It ends a session that would spin:
one that dials again at once and is cut off at once. -/
def stepsPerInstant : Nat := 10000

namespace Session

variable {ω κ δ φ : Type} (b : Backend ω κ δ φ) (o : Outside ω)

/-- What is ready outside happens. -/
def stepOutside (now : Nat) (before : Option Nat) (x : Session ω κ δ φ) : Bool × Session ω κ δ φ :=
  if o.isReady now before x.outside then
    (true, { x with outside := o.elapse now before x.outside })
  else (false, x)

/-- The loop at work. -/
def stepWork (now : Nat) (x : Session ω κ δ φ) : Bool × Session ω κ δ φ :=
  if x.isAwake then x.stepLoop b now else (false, x)

/-- The first of some steps that goes on. -/
def firstOf (steps : List (Session ω κ δ φ → Bool × Session ω κ δ φ)) (x : Session ω κ δ φ) :
    Bool × Session ω κ δ φ :=
  match steps with
  | [] => (false, x)
  | f :: rest =>
    match f x with
    | (true, x) => (true, x)
    | (false, x) => firstOf rest x

/-- One step of whoever comes first, if anybody can go on. -/
def step (now : Nat) (x : Session ω κ δ φ) : Bool × Session ω κ δ φ :=
  x.firstOf [stepCall b now, stepWork b now,
    fun x => x.stepOutside o now (x.turn? b now),
    stepLoop b now, stepOutside o now none]

def settleIn (now : Nat) : Nat → Session ω κ δ φ → Session ω κ δ φ
  | 0, x => x
  | steps + 1, x =>
    match x.step b o now with
    | (true, x) => settleIn now steps x
    | (false, x) => x

/-- All that can happen now. -/
def settle (now : Nat) (x : Session ω κ δ φ) : Session ω κ δ φ := x.settleIn b o now stepsPerInstant

/-- When somebody goes on by itself. -/
def wake (x : Session ω κ δ φ) : Option Nat :=
  [x.callWake b, (x.appointment? b).map (·.due), o.nextDue x.outside].reduceOption.min?

end Session

end MqttLink
