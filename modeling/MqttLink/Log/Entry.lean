import MqttLink.Log.Level

/-!
# Entries of the log

An entry comes from one part of the program and tells a message and perhaps more.
-/

namespace MqttLink.Log

/-- The parts of the program that have something to say. -/
inductive Source where
  | program
  | socket
  | client
  | health
  | loop
  | inbox
  deriving DecidableEq, Repr

/-- A part of a part has its path in front. -/
def Source.path : Source → String
  | program => "dx_mqtt"
  | socket => "dx_mqtt::transport::socket"
  | client => "dx_mqtt::transport::mqtt::client"
  | health => "dx_mqtt::transport::mqtt::health_monitor"
  | loop => "dx_mqtt::transport::mqtt::sync_loop"
  | inbox => "dx_mqtt::transport::mqtt::message_handler"

structure Entry where
  source : Source := .program
  level : Level
  message : String
  /-- The names of what it tells besides the message. -/
  details : List String := []
  deriving DecidableEq, Repr

/-- The names of all that an entry tells. -/
def Entry.fields (e : Entry) : List String := "message" :: e.details

end MqttLink.Log
