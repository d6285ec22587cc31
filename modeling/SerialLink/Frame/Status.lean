import SerialLink.Frame.Error

namespace SerialLink

/-- What a response says about the request it answers. -/
inductive Status where
  | ok
  | unknownOperation
  | invalidArguments
  | payloadMissingParts
  | outOfBounds
  | typeMismatch
  | notAllowed
  | timedOut
  | corrupted
deriving DecidableEq, Repr

namespace Status

/-- Every status, each at the position of its code. -/
def all : List Status :=
  [.ok, .unknownOperation, .invalidArguments, .payloadMissingParts, .outOfBounds, .typeMismatch,
    .notAllowed, .timedOut, .corrupted]

def code : Status → UInt8
  | .ok => 0
  | .unknownOperation => 1
  | .invalidArguments => 2
  | .payloadMissingParts => 3
  | .outOfBounds => 4
  | .typeMismatch => 5
  | .notAllowed => 6
  | .timedOut => 7
  | .corrupted => 8

/-- The status with a given code, if there is one. -/
def ofCode (code : UInt8) : Except FrameError Status :=
  match all[code.toNat]? with
  | some status => .ok status
  | none => .error (.unknownStatus code)

def isOk (status : Status) : Bool := status == .ok

theorem ofCode_code (status : Status) : ofCode status.code = .ok status := by
  cases status <;> rfl

end Status

end SerialLink
