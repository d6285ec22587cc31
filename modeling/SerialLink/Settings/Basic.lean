import SerialLink.Duration
import SerialLink.Text.Literal

namespace SerialLink

/-- How a client reaches its target. -/
structure Settings where
  port : String
  baudRate : UInt32
  target : UInt8
  responseTimeout : Option Duration
deriving DecidableEq, Repr

namespace Settings

/-- What holds where nothing else is said. -/
def standard : Settings := ⟨"COM6", 115200, 1, none⟩

def describe (settings : Settings) : String :=
  Text.record "Config"
    [("port", Text.textLiteral settings.port), ("baud_rate", toString settings.baudRate.toNat),
      ("target_id", toString settings.target.toNat),
      ("response_timeout", Text.optionally Duration.describe settings.responseTimeout)] false

end Settings

end SerialLink
