import SerialLink.Frame.Request
import SerialLink.Frame.Response

namespace SerialLink

/-! What a simulated device does about a request.

An answer may be computed from the request, and what is computed is an answer again.  However deep
that goes, it ends: with a response, with raw bytes, or with nothing.
-/

inductive Answer where
  | reply (response : Response)
  /-- Bytes as they are, framed or not. -/
  | raw (bytes : Bytes)
  | silent
  /-- The answer depends on the request alone, and not on what came before it. -/
  | computed (answer : Request → Answer)

namespace Answer

/-- A response without a CRC, with no more of the payload than fits. -/
def ofCode (code : UInt8) (payload : Bytes) : Answer :=
  match Response.make code (payload.take maxPayload) 0 with
  | .ok response => .reply response
  | .error _ => .silent

def ok (payload : Bytes) : Answer := ofCode Status.ok.code payload

def status (status : Status) : Answer := ofCode status.code []

/-- Every request gets its own payload back. -/
def echo : Answer := .computed fun request => ok request.payload.bytes

/-- One answer to payloads that begin with a given byte, another to all the others. -/
def firstByte (byte : UInt8) (matching other : Answer) : Answer :=
  .computed fun request => if request.payload.bytes.head? = some byte then matching else other

/-- The bytes that answer a request, if it is answered at all. -/
def resolve : Answer → Request → Option Bytes
  | .reply response, _ => some response.encode
  | .raw bytes, _ => some bytes
  | .silent, _ => none
  | .computed answer, request => (answer request).resolve request

def describe : Answer → String
  | .reply response => "Reply(" ++ response.describe ++ ")"
  | .raw bytes => s!"Raw({bytes.length})"
  | .silent => "Silent"
  | .computed _ => "Custom(\"<fn>\")"

end Answer

end SerialLink
