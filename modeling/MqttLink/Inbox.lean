import MqttLink.Message

/-!
# Inboxes

A bounded queue of received messages. A message that finds it full is dropped, so that delivery never
waits.
-/

namespace MqttLink

structure Inbox where
  capacity : Nat
  capacity_pos : 0 < capacity := by decide
  messages : List Message := []
  /-- Nobody reads any more. -/
  closed : Bool := false

namespace Inbox

/-- There is room for at least one message. -/
def new (capacity : Nat) : Inbox where
  capacity := max capacity 1
  capacity_pos := by omega

def deliver (m : Message) (b : Inbox) : Inbox :=
  if b.closed ∨ b.capacity ≤ b.messages.length then b
  else { b with messages := b.messages ++ [m] }

def take? (b : Inbox) : Option (Message × Inbox) :=
  match b.messages with
  | [] => none
  | m :: rest => some (m, { b with messages := rest })

def takeAll (b : Inbox) : List Message × Inbox := (b.messages, { b with messages := [] })

def close (b : Inbox) : Inbox := { b with messages := [], closed := true }

theorem length_deliver_le {b : Inbox} (m : Message) (h : b.messages.length ≤ b.capacity) :
    (b.deliver m).messages.length ≤ (b.deliver m).capacity := by
  unfold deliver
  split
  · exact h
  · rename_i open_
    simp only [List.length_append, List.length_singleton]
    omega

end Inbox

end MqttLink
