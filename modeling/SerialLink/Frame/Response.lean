import SerialLink.Frame.Payload
import SerialLink.Frame.Status
import SerialLink.Text.Literal

namespace SerialLink

/-! Responses on the wire: code, length, CRC, payload.

There are two ways to read one.  `decode` takes the header off the front byte by byte;
`decodeInPlace` checks the length first and then looks at the positions of the fields.  They agree
on every byte string.
-/

/-- An answer of a target. -/
structure Response where
  code : UInt8
  crc : UInt8
  payload : Payload
deriving DecidableEq, Repr

namespace Response

def make (code : UInt8) (payload : Bytes) (crc : UInt8) : Except FrameError Response :=
  (Payload.ofBytes payload).map fun payload => ⟨code, crc, payload⟩

/-- The meaning of the code. -/
def status (response : Response) : Except FrameError Status := Status.ofCode response.code

def encodedLength (response : Response) : Nat :=
  Layout.response.headerSize + response.payload.bytes.length

def encode (response : Response) : Bytes :=
  response.code :: response.payload.lengthByte :: response.crc :: response.payload.bytes

def decode : Bytes → Except FrameError Response
  | code :: stated :: crc :: payload =>
      match Payload.ofStated? stated payload with
      | some payload => .ok ⟨code, crc, payload⟩
      | none => .error (.malformed (Layout.response.frameLength stated) (payload.length + 3))
  | short => .error (.malformed Layout.response.headerSize short.length)

/-- Reads the fields at their positions; the payload is what stands behind the header. -/
def decodeInPlace (bytes : Bytes) : Except FrameError Response :=
  match bytes[0]?, bytes[Layout.response.lengthOffset]?, bytes[2]? with
  | some code, some stated, some crc =>
      match Payload.ofStated? stated (bytes.drop Layout.response.headerSize) with
      | some payload => .ok ⟨code, crc, payload⟩
      | none => .error (.malformed (Layout.response.frameLength stated) bytes.length)
  | _, _, _ => .error (.malformed Layout.response.headerSize bytes.length)

def describe (response : Response) : String :=
  Text.record "ResponseFrame"
    [("response_code", toString response.code.toNat), ("crc", toString response.crc.toNat),
      ("payload", Text.byteLiteral response.payload.bytes)] false

theorem encode_length (response : Response) : response.encode.length = response.encodedLength := by
  simp only [encode, encodedLength, Layout.headerSize, List.length_cons]
  omega

theorem decode_encode (response : Response) : decode response.encode = .ok response := by
  simp only [encode, decode, response.payload.ofStated?_lengthByte]

end Response

/-- Reads the response that a whole buffer holds. -/
def decodeResponse (bytes : Bytes) : Except FrameError Response := Response.decode bytes

end SerialLink
