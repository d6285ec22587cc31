import SerialLink.Frame.Payload

namespace SerialLink

/-! Requests on the wire: target, operation, length, CRC, payload.

The CRC byte travels with a frame and is never checked.  Decoding accepts exactly the byte strings
that encoding produces.
-/

/-- A question to one target. -/
structure Request where
  target : UInt8
  operation : UInt8
  crc : UInt8
  payload : Payload
deriving DecidableEq, Repr

namespace Request

/-- A request with a CRC byte of zero. -/
def make (target operation : UInt8) (payload : Bytes) : Except FrameError Request :=
  (Payload.ofBytes payload).map fun payload => ⟨target, operation, 0, payload⟩

def withCrc (request : Request) (crc : UInt8) : Request := { request with crc }

def encodedLength (request : Request) : Nat :=
  Layout.request.headerSize + request.payload.bytes.length

def encode (request : Request) : Bytes :=
  request.target :: request.operation :: request.payload.lengthByte :: request.crc ::
    request.payload.bytes

def decode : Bytes → Except FrameError Request
  | target :: operation :: stated :: crc :: payload =>
      match Payload.ofStated? stated payload with
      | some payload => .ok ⟨target, operation, crc, payload⟩
      | none => .error (.malformed (Layout.request.frameLength stated) (payload.length + 4))
  | short => .error (.malformed Layout.request.headerSize short.length)

theorem encode_length (request : Request) : request.encode.length = request.encodedLength := by
  simp only [encode, encodedLength, Layout.headerSize, List.length_cons]
  omega

theorem decode_encode (request : Request) : decode request.encode = .ok request := by
  simp only [encode, decode, request.payload.ofStated?_lengthByte]

end Request

end SerialLink
