import SerialLink.Fault.Io
import SerialLink.Frame.Error

namespace SerialLink

/-- Why frames could not be moved over a line. -/
inductive LinkError where
  | protocol (error : FrameError)
  | line (error : IoError)
  /-- The line ended inside a frame. -/
  | closed
deriving DecidableEq, Repr

namespace LinkError

def message : LinkError → String
  | .protocol error => "protocol error: " ++ error.message
  | .line error => "IO error: " ++ error.message
  | .closed => "connection closed with a partial frame buffered"

/-- Whether the frame behind this one can still be read. -/
def isRecoverable : LinkError → Bool
  | .protocol _ => true
  | _ => false

def cause? : LinkError → Option String
  | .protocol error => some error.message
  | .line error => some error.message
  | .closed => none

/-- The failure of the line inside, if that is what went wrong. -/
def ioKind? : LinkError → Option IoKind
  | .line error => some error.kind
  | _ => none

end LinkError

end SerialLink
