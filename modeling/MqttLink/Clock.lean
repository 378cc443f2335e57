/-!
# Time

A time is a number of milliseconds since the start. Main statement: a wait never ends before it began,
and as long as its end can be told it ends just then. What has a deadline needs one that can be told.
-/

namespace MqttLink

namespace Clock

/-- The clock counts nanoseconds in 64 bits, and what begins here it cannot tell. -/
def horizon : Nat := UInt64.size / 1000000

/-- Thirty years. -/
def thirtyYears : Nat := 946080000000

/-- When a wait ends. One whose end cannot be told lasts thirty years. -/
def after (now wait : Nat) : Nat := if now + wait < horizon then now + wait else now + thirtyYears

theorem le_after (now wait : Nat) : now ≤ after now wait := by
  unfold after
  split <;> omega

theorem after_eq {now wait : Nat} (h : now + wait < horizon) : after now wait = now + wait :=
  if_pos h

/-- The deadline of what begins now, if the clock can tell it. -/
def deadline? (now wait : Nat) : Option Nat :=
  if now + wait < horizon then some (now + wait) else none

theorem deadline?_eq_some {now wait : Nat} (h : now + wait < horizon) :
    deadline? now wait = some (now + wait) :=
  if_pos h

theorem deadline?_eq_none_iff {now wait : Nat} : deadline? now wait = none ↔ horizon ≤ now + wait := by
  simp [deadline?]

/-- No clock gets here. -/
def endOfTime : Nat := UInt64.size

end Clock

/-- What somebody waits for. Of those whose time comes at once the lower number goes first. -/
structure Appointment where
  due : Nat
  /-- It counts up with everyone who begins to wait. -/
  number : Nat := 0
  deriving DecidableEq, Repr

end MqttLink
