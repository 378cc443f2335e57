import MqttLink.Bytes

/-!
# Messages

What a subscriber gets to see.
-/

namespace MqttLink

structure Message where
  topic : String
  payload : Bytes
  deriving DecidableEq, Repr

end MqttLink
