import SerialLink.Frame.Error
import SerialLink.Frame.Layout

namespace SerialLink

/-- What a frame carries: no more bytes than a length byte can state. -/
structure Payload where
  bytes : Bytes
  length_le : bytes.length ≤ maxPayload
deriving DecidableEq, Repr

namespace Payload

def ofBytes (bytes : Bytes) : Except FrameError Payload :=
  if fits : bytes.length ≤ maxPayload then .ok ⟨bytes, fits⟩
  else .error (.payloadTooLarge bytes.length maxPayload)

theorem length_le_of_stated {bytes : Bytes} {stated : UInt8}
    (exactly : bytes.length = stated.toNat) : bytes.length ≤ maxPayload := by
  have bound := stated.toNat_lt
  simp only [maxPayload]
  omega

/-- The payload behind a length byte, if the bytes are as many as it states. -/
def ofStated? (stated : UInt8) (bytes : Bytes) : Option Payload :=
  if exactly : bytes.length = stated.toNat then some ⟨bytes, length_le_of_stated exactly⟩ else none

/-- The byte that states the length. -/
def lengthByte (payload : Payload) : UInt8 := UInt8.ofNat payload.bytes.length

theorem lengthByte_toNat (payload : Payload) :
    payload.lengthByte.toNat = payload.bytes.length := by
  have bound := payload.length_le
  simp only [maxPayload] at bound
  simp only [lengthByte, UInt8.toNat_ofNat']
  omega

theorem ofStated?_lengthByte (payload : Payload) :
    ofStated? payload.lengthByte payload.bytes = some payload := by
  simp only [ofStated?, payload.lengthByte_toNat, ↓reduceDIte]

theorem ofStated?_eq_some_iff {stated : UInt8} {bytes : Bytes} {payload : Payload} :
    ofStated? stated bytes = some payload ↔
      payload.bytes = bytes ∧ payload.lengthByte = stated := by
  constructor
  · intro found
    unfold ofStated? at found
    split at found
    · rename_i exactly
      cases found
      refine ⟨rfl, ?_⟩
      apply UInt8.toNat_inj.mp
      rw [lengthByte_toNat]
      exact exactly
    · contradiction
  · rintro ⟨rfl, rfl⟩
    exact payload.ofStated?_lengthByte

theorem ofStated?_eq_none_iff {stated : UInt8} {bytes : Bytes} :
    ofStated? stated bytes = none ↔ bytes.length ≠ stated.toNat := by
  unfold ofStated?
  split
  · rename_i exactly
    exact ⟨fun absurdity => by contradiction, fun different => absurd exactly different⟩
  · rename_i different
    exact ⟨fun _ => different, fun _ => rfl⟩

end Payload

end SerialLink
