import MqttLink.Session.Error
import MqttLink.Text.Numeral

/-!
# Opening a socket

A port is a number of sixteen bits. What a network answers to a dial is up to the network.
-/

namespace MqttLink

/-- The answer of a network to a host and a port. -/
structure Network where
  open? : String → UInt16 → Except String Unit

/-- A network that leads nowhere. -/
def Network.unplugged : Network := ⟨fun _ _ => .error "Network is unreachable (os error 101)"⟩

/-- A port that is no number cannot be looked up. -/
def Network.portOf (host port : String) : Except SessionError UInt16 :=
  match Text.naturalBelow? UInt16.size port with
  | none => .error (.unresolved host port ("invalid port '" ++ port ++ "'"))
  | some number => .ok number.toUInt16

def Network.dial (n : Network) (host port : String) : Except SessionError Unit :=
  match portOf host port with
  | .error e => .error e
  | .ok number => (n.open? host number).mapError (.unreachable host port)

/-- Without a network every dial is trouble with the socket. -/
theorem Network.fault?_dial_unplugged (host port : String) :
    ∃ e, Network.unplugged.dial host port = .error e ∧ e.fault? = some .socketError := by
  unfold dial portOf
  split
  · next e h =>
    split at h
    · cases h
      exact ⟨_, rfl, rfl⟩
    · cases h
  · exact ⟨_, rfl, rfl⟩

end MqttLink
