import SerialLink.Proofs.Frame.Wire

namespace SerialLink

/-! The two formats, exactly.

An encoder writes the fields in an order of its own, and a decoder checks the length apart from
reading them.  They agree if every frame is read back from its encoding and nothing else is read at
all; then what can be read is what a layout calls a frame.
-/

variable {bytes : Bytes} {layout : Layout}

theorem Layout.isFrame_iff : layout.IsFrame bytes ↔ layout.headerSize ≤ bytes.length ∧
    ∃ stated, bytes[layout.lengthOffset]? = some stated ∧
      bytes.length = layout.headerSize + stated.toNat := by
  constructor
  · intro whole
    obtain ⟨stated, found, exactly⟩ := Option.map_eq_some_iff.mp whole
    exact ⟨whole.headerSize_le, stated, found, exactly.symm⟩
  · rintro ⟨_, stated, found, exactly⟩
    rw [IsFrame, lengthOf?, found, exactly]
    rfl

namespace Payload

theorem exists_ofBytes_iff : (∃ payload, ofBytes bytes = .ok payload) ↔ bytes.length ≤ 255 := by
  unfold ofBytes
  split
  · rename_i fits
    exact ⟨fun _ => fits, fun _ => ⟨_, rfl⟩⟩
  · rename_i tooLong
    refine ⟨?_, fun fits => absurd fits tooLong⟩
    rintro ⟨payload, accepted⟩
    cases accepted

theorem bytes_of_ofBytes {payload : Payload} (accepted : ofBytes bytes = .ok payload) :
    payload.bytes = bytes := by
  unfold ofBytes at accepted
  split at accepted
  · cases accepted
    rfl
  · cases accepted

end Payload

theorem exists_map_ok_iff {α β ε : Type} (checked : Except ε α) (build : α → β) :
    (∃ frame, checked.map build = .ok frame) ↔ ∃ payload, checked = .ok payload := by
  cases checked <;> simp [Except.map]

theorem Request.make_eq_ok {target operation : UInt8} {request : Request}
    (made : make target operation bytes = .ok request) :
    request = ⟨target, operation, 0, request.payload⟩ ∧ request.payload.bytes = bytes := by
  cases accepted : Payload.ofBytes bytes with
  | error error => simp [make, accepted, Except.map] at made
  | ok payload =>
      simp only [make, accepted, Except.map] at made
      cases made
      exact ⟨rfl, Payload.bytes_of_ofBytes accepted⟩

theorem Response.make_eq_ok {code crc : UInt8} {response : Response}
    (made : make code bytes crc = .ok response) :
    response = ⟨code, crc, response.payload⟩ ∧ response.payload.bytes = bytes := by
  cases accepted : Payload.ofBytes bytes with
  | error error => simp [make, accepted, Except.map] at made
  | ok payload =>
      simp only [make, accepted, Except.map] at made
      cases made
      exact ⟨rfl, Payload.bytes_of_ofBytes accepted⟩

/-- Frames with a header of so many bytes, the length byte at an offset among them, and the payload
behind: what is written, and what is read. -/
structure IsFormat {α : Type} (header offset : Nat) (payload : α → Payload)
    (encodedLength : α → Nat) (encode : α → Bytes) (decode : Bytes → Except FrameError α) :
    Prop where
  payload_le (frame : α) : (payload frame).bytes.length ≤ 255
  length_byte (frame : α) : ∃ stated, (encode frame)[offset]? = some stated ∧
    stated.toNat = (payload frame).bytes.length
  encode_length (frame : α) : (encode frame).length = encodedLength frame ∧
    encodedLength frame = header + (payload frame).bytes.length
  decode_encode (frame : α) : decode (encode frame) = .ok frame
  decodes_iff (bytes : Bytes) : (∃ frame, decode bytes = .ok frame) ↔
    header ≤ bytes.length ∧ ∃ stated, bytes[offset]? = some stated ∧
      bytes.length = header + stated.toNat
  encode_decode (bytes : Bytes) (frame : α) : decode bytes = .ok frame → encode frame = bytes
  image (bytes : Bytes) : (∃ frame, decode bytes = .ok frame) ↔ ∃ frame, encode frame = bytes

/-- An encoder that writes nothing but frames, and a decoder that reads them back, have a format if
the decoder reads every frame of the layout and nothing that is not an encoding. -/
theorem Layout.isFormat {α : Type} {payload : α → Payload} {encode : α → Bytes}
    {decode : Bytes → Except FrameError α} (layout : Layout)
    (sized : ∀ frame, (encode frame).length = layout.headerSize + (payload frame).bytes.length)
    (whole : ∀ frame, layout.IsFrame (encode frame))
    (reads : ∀ frame, decode (encode frame) = .ok frame)
    (exactly : ∀ bytes frame, decode bytes = .ok frame → encode frame = bytes)
    (readable : ∀ bytes, layout.IsFrame bytes → ∃ frame, decode bytes = .ok frame) :
    IsFormat layout.headerSize layout.lengthOffset payload
      (fun frame => layout.headerSize + (payload frame).bytes.length) encode decode := by
  have image (bytes : Bytes) :
      (∃ frame, decode bytes = .ok frame) ↔ ∃ frame, encode frame = bytes := by
    constructor
    · rintro ⟨frame, decoded⟩
      exact ⟨frame, exactly bytes frame decoded⟩
    · rintro ⟨frame, rfl⟩
      exact ⟨frame, reads frame⟩
  refine ⟨fun frame => (payload frame).length_le, ?_, fun frame => ⟨sized frame, rfl⟩, reads, ?_,
    exactly, image⟩
  · intro frame
    obtain ⟨_, stated, found, length⟩ := isFrame_iff.mp (whole frame)
    refine ⟨stated, found, ?_⟩
    rw [sized frame] at length
    omega
  · intro bytes
    rw [← isFrame_iff]
    refine ⟨?_, readable bytes⟩
    rintro ⟨frame, decoded⟩
    rw [← exactly bytes frame decoded]
    exact whole frame

/-- Every frame there is, made or decoded, is read back from its encoding; what is read at all is as
long as its length byte says, and is the encoding of what it is read as. -/
theorem formats_exact :
    IsFormat 4 2 Request.payload Request.encodedLength Request.encode Request.decode ∧
      IsFormat 3 1 Response.payload Response.encodedLength Response.encode Response.decode ∧
      IsFormat 3 1 Response.payload Response.encodedLength Response.encode
        Response.decodeInPlace ∧
      (∀ target operation bytes,
        ((∃ request, Request.make target operation bytes = .ok request) ↔ bytes.length ≤ 255) ∧
          ∀ request, Request.make target operation bytes = .ok request →
            request = ⟨target, operation, 0, request.payload⟩ ∧ request.payload.bytes = bytes) ∧
      ∀ code bytes crc,
        ((∃ response, Response.make code bytes crc = .ok response) ↔ bytes.length ≤ 255) ∧
          ∀ response, Response.make code bytes crc = .ok response →
            response = ⟨code, crc, response.payload⟩ ∧ response.payload.bytes = bytes := by
  refine ⟨?_, ?_, ?_, ?_, ?_⟩
  · exact Layout.request.isFormat Request.encode_length Request.isFrame_encode
      Request.decode_encode (fun _ _ => Request.encode_of_decode)
      fun _ => Request.decode_of_isFrame
  · exact Layout.response.isFormat Response.encode_length Response.isFrame_encode
      Response.decode_encode (fun _ _ => Response.encode_of_decode)
      fun _ => Response.decode_of_isFrame
  · refine Layout.response.isFormat Response.encode_length Response.isFrame_encode ?_
      (fun _ _ => Response.encode_of_decodeInPlace) fun _ => Response.decodeInPlace_of_isFrame
    intro response
    rw [Response.decodeInPlace_eq_decode, Response.decode_encode]
  · intro target operation bytes
    exact ⟨(exists_map_ok_iff _ _).trans Payload.exists_ofBytes_iff,
      fun _ => Request.make_eq_ok⟩
  · intro code bytes crc
    exact ⟨(exists_map_ok_iff _ _).trans Payload.exists_ofBytes_iff,
      fun _ => Response.make_eq_ok⟩

end SerialLink
