import MqttLink.Address.Broker
import MqttLink.Settings

/-!
# What can be wrong with a configuration
-/

namespace MqttLink

/-- Why a file cannot be read. -/
inductive ReadError where
  | missing
  | directory
  /-- A part of the path that is no directory. -/
  | notDirectory
  | nameTooLong
  | notText
  | other (reason : String)
  deriving DecidableEq, Repr

def ReadError.message : ReadError → String
  | missing => "No such file or directory (os error 2)"
  | directory => "Is a directory (os error 21)"
  | notDirectory => "Not a directory (os error 20)"
  | nameTooLong => "File name too long (os error 36)"
  | notText => "stream did not contain valid UTF-8"
  | other reason => reason

inductive ConfigError where
  | unreadable (e : ReadError)
  /-- The text is not TOML, or holds something else than a configuration. -/
  | malformed
  /-- A number is too large to be written. -/
  | unwritable
  | missingVariable (name : String)
  | badBrokerUrl (url : String) (e : BrokerUrlError)
  | noBroker
  | badSettings (e : SettingsError)
  | emptyTopic
  | badQoS (topic : String) (qos : UInt8)
  deriving DecidableEq, Repr

namespace ConfigError

def message : ConfigError → String
  | unreadable e => "Failed to read config file: " ++ e.message
  | malformed => "Failed to parse TOML: not a configuration"
  | unwritable => "Failed to render TOML: out-of-range value for u64 type"
  | missingVariable name => "Environment variable not found: " ++ name
  | badBrokerUrl url e => "Invalid broker URL: " ++ url ++ ": " ++ e.message
  | noBroker => "Invalid configuration: either mqtt.host or mqtt.broker_url is required"
  | badSettings e => "Invalid configuration: " ++ e.message
  | emptyTopic => "Invalid configuration: subscription topic cannot be empty"
  | badQoS topic qos =>
    "Invalid configuration: subscription '" ++ topic ++ "' has invalid qos " ++ toString qos

end ConfigError

end MqttLink
