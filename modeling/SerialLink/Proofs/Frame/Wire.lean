import SerialLink.Frame.Request
import SerialLink.Frame.Response
import SerialLink.Proofs.Stream.Segmentation

namespace SerialLink

open Layout

/-! Encoded requests and responses as frames of their layouts.

Encoders and decoders look at fields, a layout only at lengths.  What is encoded is a frame of its
layout, and whatever is a frame of a layout decodes.
-/

variable {frame bytes : Bytes} {stated : UInt8}

theorem Payload.ofStated?_exists (exactly : bytes.length = stated.toNat) :
    ∃ payload, ofStated? stated bytes = some payload := by
  cases found : ofStated? stated bytes with
  | some payload => exact ⟨payload, rfl⟩
  | none => exact absurd exactly (ofStated?_eq_none_iff.mp found)

namespace Request

theorem isFrame_encode (request : Request) : Layout.request.IsFrame request.encode := by
  change some (Layout.request.frameLength request.payload.lengthByte) = some request.encode.length
  rw [frameLength, request.payload.lengthByte_toNat, encode_length, encodedLength]

theorem decode_of_isFrame (whole : Layout.request.IsFrame frame) :
    ∃ request, decode frame = .ok request := by
  have header := whole.headerSize_le
  match frame with
  | [] | [_] | [_, _] | [_, _, _] => simp [headerSize] at header
  | target :: operation :: stated :: crc :: payload =>
      have shown : Layout.request.frameLength stated = payload.length + 4 := Option.some.inj whole
      have exactly : payload.length = stated.toNat := by
        simp only [frameLength, headerSize] at shown
        omega
      obtain ⟨accepted, found⟩ := Payload.ofStated?_exists exactly
      exact ⟨⟨target, operation, crc, accepted⟩, by simp only [decode, found]⟩

theorem encode_of_decode {request : Request} (decoded : decode bytes = .ok request) :
    request.encode = bytes := by
  match bytes with
  | [] | [_] | [_, _] | [_, _, _] => simp [decode] at decoded
  | target :: operation :: stated :: crc :: rest =>
      simp only [decode] at decoded
      split at decoded
      · rename_i payload found
        obtain ⟨rfl, rfl⟩ := Payload.ofStated?_eq_some_iff.mp found
        cases decoded
        rfl
      · cases decoded

end Request

namespace Response

theorem isFrame_encode (response : Response) : Layout.response.IsFrame response.encode := by
  change some (Layout.response.frameLength response.payload.lengthByte) =
    some response.encode.length
  rw [frameLength, response.payload.lengthByte_toNat, encode_length, encodedLength]

theorem decode_of_isFrame (whole : Layout.response.IsFrame frame) :
    ∃ response, decode frame = .ok response := by
  have header := whole.headerSize_le
  match frame with
  | [] | [_] | [_, _] => simp [headerSize] at header
  | code :: stated :: crc :: payload =>
      have shown : Layout.response.frameLength stated = payload.length + 3 := Option.some.inj whole
      have exactly : payload.length = stated.toNat := by
        simp only [frameLength, headerSize] at shown
        omega
      obtain ⟨accepted, found⟩ := Payload.ofStated?_exists exactly
      exact ⟨⟨code, crc, accepted⟩, by simp only [decode, found]⟩

/-- Looking at positions and taking the header off byte by byte come to the same. -/
theorem decodeInPlace_eq_decode (bytes : Bytes) : decodeInPlace bytes = decode bytes := by
  match bytes with
  | [] | [_] | [_, _] => rfl
  | code :: stated :: crc :: payload => rfl

theorem encode_of_decode {response : Response} (decoded : decode bytes = .ok response) :
    response.encode = bytes := by
  match bytes with
  | [] | [_] | [_, _] => simp [decode] at decoded
  | code :: stated :: crc :: rest =>
      simp only [decode] at decoded
      split at decoded
      · rename_i payload found
        obtain ⟨rfl, rfl⟩ := Payload.ofStated?_eq_some_iff.mp found
        cases decoded
        rfl
      · cases decoded

theorem encode_of_decodeInPlace {response : Response} (decoded : decodeInPlace bytes = .ok response) :
    response.encode = bytes := by
  rw [decodeInPlace_eq_decode] at decoded
  exact encode_of_decode decoded

theorem decodeInPlace_of_isFrame (whole : Layout.response.IsFrame frame) :
    ∃ response, decodeInPlace frame = .ok response := by
  rw [decodeInPlace_eq_decode]
  exact decode_of_isFrame whole

end Response

end SerialLink
