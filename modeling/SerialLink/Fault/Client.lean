import SerialLink.Fault.Link

namespace SerialLink

/-- Why a client has no response to hand back. -/
inductive ClientError where
  | protocol (error : FrameError)
  | link (error : LinkError)
  | line (error : IoError)
  | settings (text : String)
  | responseTimeout
  | closed
deriving DecidableEq, Repr

namespace ClientError

/-- A failure of the link, sorted under the client's own headings. -/
def ofLink : LinkError → ClientError
  | .protocol error => .protocol error
  | .line error => .line error
  | .closed => .closed

def message : ClientError → String
  | .protocol error => "protocol error: " ++ error.message
  | .link error => "codec error: " ++ error.message
  | .line error => "IO error: " ++ error.message
  | .settings text => "configuration error: " ++ text
  | .responseTimeout => "response timed out"
  | .closed => "connection closed"

/-- Whether a later attempt may succeed. -/
def isTransient : ClientError → Bool
  | .responseTimeout | .closed | .line _ => true
  | _ => false

def isProtocol : ClientError → Bool
  | .protocol _ => true
  | _ => false

def cause? : ClientError → Option String
  | .protocol error => some error.message
  | .link error => some error.message
  | .line error => some error.message
  | _ => none

def ioKind? : ClientError → Option IoKind
  | .line error => some error.kind
  | _ => none

end ClientError

end SerialLink
