namespace SerialLink

/-! Failures of a byte line, as the line reports them. -/

inductive IoKind where
  | notFound
  | permissionDenied
  | connectionRefused
  | connectionReset
  | connectionAborted
  | notConnected
  | brokenPipe
  | wouldBlock
  | invalidInput
  | invalidData
  | timedOut
  | writeZero
  | interrupted
  | unsupported
  | unexpectedEof
  | outOfMemory
  | other
deriving DecidableEq, Repr

/-- The wording of a failure of which only the kind is known. -/
def IoKind.message : IoKind → String
  | .notFound => "entity not found"
  | .permissionDenied => "permission denied"
  | .connectionRefused => "connection refused"
  | .connectionReset => "connection reset"
  | .connectionAborted => "connection aborted"
  | .notConnected => "not connected"
  | .brokenPipe => "broken pipe"
  | .wouldBlock => "operation would block"
  | .invalidInput => "invalid input parameter"
  | .invalidData => "invalid data"
  | .timedOut => "timed out"
  | .writeZero => "write zero"
  | .interrupted => "operation interrupted"
  | .unsupported => "unsupported"
  | .unexpectedEof => "unexpected end of file"
  | .outOfMemory => "out of memory"
  | .other => "other error"

/-- A failure, with a text of its own where it has one. -/
structure IoError where
  kind : IoKind
  text : Option String
deriving DecidableEq, Repr

namespace IoError

def ofKind (kind : IoKind) : IoError := ⟨kind, none⟩

/-- A text of its own takes the place of the wording of the kind. -/
def message (error : IoError) : String := error.text.getD error.kind.message

end IoError

end SerialLink
