import SerialLink.Text.Hex

namespace SerialLink

/-- Why bytes are not a frame, or a frame has no meaning. -/
inductive FrameError where
  /-- The bytes are not as many as the header asks for. -/
  | malformed (expected actual : Nat)
  /-- The length byte cannot state this many bytes. -/
  | payloadTooLarge (size max : Nat)
  /-- The response code names no status. -/
  | unknownStatus (code : UInt8)
deriving DecidableEq, Repr

namespace FrameError

def message : FrameError → String
  | .malformed expected actual => s!"malformed frame: expected {expected} bytes, got {actual}"
  | .payloadTooLarge size max => s!"payload of {size} bytes exceeds maximum of {max}"
  | .unknownStatus code => "unknown response code: 0x" ++ String.ofList (Text.hexPair code)

def isMalformed : FrameError → Bool
  | .malformed .. => true
  | _ => false

end FrameError

end SerialLink
