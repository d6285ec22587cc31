import SerialLink.Fault.Link

namespace SerialLink

inductive DeviceError where
  | line (error : IoError)
  | protocol (text : String)
  | stopped
deriving DecidableEq, Repr

namespace DeviceError

/-- A failure of the link: of the line as it is, anything else as its wording. -/
def ofLink : LinkError → DeviceError
  | .line error => .line error
  | other => .protocol other.message

def message : DeviceError → String
  | .line error => "IO error: " ++ error.message
  | .protocol text => "Protocol error: " ++ text
  | .stopped => "Device already stopped"

def cause? : DeviceError → Option String
  | .line error => some error.message
  | _ => none

end DeviceError

end SerialLink
