import SerialLink.Device.Answer
import SerialLink.Recording.Log

namespace SerialLink

/-- How a simulated device behaves on all its links. -/
structure Setup where
  /-- The answers to single operations, at most one for each. -/
  answers : List (UInt8 × Answer)
  /-- The answer to all other operations. -/
  fallback : Answer
  /-- The only target that is answered, if it is one target only. -/
  target : Option UInt8
  /-- The bytes in each piece of an answer, if answers are written in pieces. -/
  pieceSize : Option { size : Nat // 0 < size }
  /-- The bytes a link can hold in each direction. -/
  capacity : { size : Nat // 0 < size }

namespace Setup

/-- A size of zero is taken for one. -/
def atLeastOne (size : Nat) : { size : Nat // 0 < size } := ⟨max size 1, by omega⟩

/-- No operation is known, every target is answered, and answers are written in one piece. -/
def standard : Setup := ⟨[], .status .unknownOperation, none, none, ⟨1024, by decide⟩⟩

/-- Puts an answer in the place of the one that the operation has, or behind all others. -/
def replaceAnswer (operation : UInt8) (answer : Answer) :
    List (UInt8 × Answer) → List (UInt8 × Answer)
  | [] => [(operation, answer)]
  | (known, earlier) :: rest =>
      if known = operation then (operation, answer) :: rest
      else (known, earlier) :: replaceAnswer operation answer rest

/-- Sets the answer to an operation; the last one set is the one that holds. -/
def withAnswer (setup : Setup) (operation : UInt8) (answer : Answer) : Setup :=
  { setup with answers := replaceAnswer operation answer setup.answers }

def answerTo (setup : Setup) (operation : UInt8) : Answer :=
  (setup.answers.lookup operation).getD setup.fallback

def addresses (setup : Setup) (request : Request) : Bool :=
  match setup.target with
  | none => true
  | some target => target == request.target

/-- How much of an answer is written next, with some of it written already and room for a given
number of bytes: never beyond the end of a piece. -/
def pieceWithin (setup : Setup) (written room : Nat) : Nat :=
  match setup.pieceSize with
  | none => room
  | some size => min (size.val - written % size.val) room

theorem pieceWithin_le (setup : Setup) (written room : Nat) :
    setup.pieceWithin written room ≤ room := by
  unfold pieceWithin
  split
  · exact Nat.le_refl _
  · exact Nat.min_le_right _ _

/-- The bytes that answer a frame, if it is a request that is answered. -/
def answer? (setup : Setup) (frame : Bytes) : Option Bytes :=
  match Request.decode frame with
  | .error _ => none
  | .ok request =>
      if setup.addresses request then (setup.answerTo request.operation).resolve request else none

/-- What the device logs about one frame when nothing hinders it. -/
def exchange (setup : Setup) (frame : Bytes) : Recording :=
  match setup.answer? frame with
  | none => [⟨false, frame⟩]
  | some bytes => [⟨false, frame⟩, ⟨true, bytes⟩]

def describe (setup : Setup) : String :=
  let answers := setup.answers.map fun (operation, answer) =>
    toString operation.toNat ++ ": " ++ answer.describe
  Text.record "MockDeviceConfig"
    [("responses", "\x7b" ++ ", ".intercalate answers ++ "\x7d"),
      ("default_response", setup.fallback.describe),
      ("target_id", Text.optionally (toString ·.toNat) setup.target),
      ("chunk_size", Text.optionally (toString ·.val) setup.pieceSize),
      ("buffer_size", toString setup.capacity.val)] false

end Setup

end SerialLink
