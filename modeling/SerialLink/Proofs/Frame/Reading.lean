import SerialLink.Proofs.Frame.Wire

namespace SerialLink

/-! Reading within bounds.

A decoder looks at the length of a buffer once and then reads on as if every byte were there.  Here a
read of a byte that is not there ends the whole reading without an outcome, so that both ways of
reading a response, off the front and at positions, have to show that they never get there.
-/

variable {layout : Layout} {bytes others : Bytes} {stated : UInt8} {error : FrameError}

/-- What is read with a guard: there is no outcome at all once a byte was read that is not there. -/
abbrev Guarded (α : Type) := ExceptT FrameError Option α

namespace Guarded

def byteAt (bytes : Bytes) (position : Nat) : Guarded UInt8 :=
  (bytes[position]?.map .ok : Option (Except FrameError UInt8))

def takeByte : Bytes → Guarded (UInt8 × Bytes)
  | [] => (none : Option (Except FrameError (UInt8 × Bytes)))
  | byte :: rest => pure (byte, rest)

/-- The bytes from a position on, which must not lie behind the end. -/
def behind (bytes : Bytes) (position : Nat) : Guarded Bytes :=
  if position ≤ bytes.length then pure (bytes.drop position)
  else (none : Option (Except FrameError Bytes))

end Guarded

namespace Layout

/-- Whether the bytes are as many as one frame of this layout has. -/
def check (layout : Layout) (bytes : Bytes) : Guarded Unit :=
  if bytes.length < layout.headerSize then
    throw (.malformed layout.headerSize bytes.length)
  else do
    let stated ← Guarded.byteAt bytes layout.lengthOffset
    if bytes.length = layout.frameLength stated then pure ()
    else throw (.malformed (layout.frameLength stated) bytes.length)

theorem check_of_short (short : bytes.length < layout.headerSize) :
    layout.check bytes = some (.error (.malformed layout.headerSize bytes.length)) := by
  rw [check, if_pos short]
  rfl

theorem check_of_shown (header : layout.headerSize ≤ bytes.length)
    (shown : bytes[layout.lengthOffset]? = some stated) :
    layout.check bytes = some (if bytes.length = layout.frameLength stated then .ok ()
      else .error (.malformed (layout.frameLength stated) bytes.length)) := by
  have long : ¬bytes.length < layout.headerSize := Nat.not_lt.mpr header
  rw [check, if_neg long, Guarded.byteAt, shown]
  change (if bytes.length = layout.frameLength stated then _ else _ : Guarded Unit) = _
  split <;> rfl

theorem length_byte_exists (header : layout.headerSize ≤ bytes.length) :
    ∃ stated, bytes[layout.lengthOffset]? = some stated := by
  have inside := layout.sizedAt_le_headerSize
  have within : layout.lengthOffset < bytes.length := Nat.lt_of_lt_of_le inside header
  exact ⟨_, List.getElem?_eq_getElem within⟩

theorem check_eq_error_iff : layout.check bytes = some (.error error) ↔
    bytes.length < layout.headerSize ∧ error = .malformed layout.headerSize bytes.length ∨
      ∃ stated, layout.headerSize ≤ bytes.length ∧ bytes[layout.lengthOffset]? = some stated ∧
        bytes.length ≠ layout.headerSize + stated.toNat ∧
        error = .malformed (layout.headerSize + stated.toNat) bytes.length := by
  by_cases short : bytes.length < layout.headerSize
  · rw [check_of_short short]
    constructor
    · intro same
      cases same
      exact .inl ⟨short, rfl⟩
    · rintro (⟨_, rfl⟩ | ⟨_, header, _⟩)
      · rfl
      · exact absurd header (Nat.not_le.mpr short)
  · have header := Nat.not_lt.mp short
    obtain ⟨stated, shown⟩ := length_byte_exists header
    rw [check_of_shown header shown]
    constructor
    · intro failed
      split at failed
      · cases failed
      · rename_i mismatched
        cases failed
        exact .inr ⟨stated, header, shown, mismatched, rfl⟩
    · rintro (⟨tooShort, _⟩ | ⟨other, _, found, mismatched, rfl⟩)
      · exact absurd tooShort short
      · obtain rfl := Option.some.inj (shown.symm.trans found)
        exact congrArg some (if_neg mismatched)

/-- Behind a whole header, the check comes to whether the rest is a payload of the stated length. -/
theorem check_append {α : Type} {header payload : Bytes} (build : Payload → α)
    (whole : header.length = layout.headerSize)
    (shown : header[layout.lengthOffset]? = some stated) :
    layout.check (header ++ payload) = some (
      (match Payload.ofStated? stated payload with
        | some accepted => Except.ok (build accepted)
        | none => .error (FrameError.malformed (layout.frameLength stated)
            (header ++ payload).length)).map
      fun _ => ()) := by
  obtain ⟨within, _⟩ := List.getElem?_eq_some_iff.mp shown
  have found : (header ++ payload)[layout.lengthOffset]? = some stated := by
    rw [List.getElem?_append_left within, shown]
  have size : (header ++ payload).length = layout.headerSize + payload.length := by
    rw [List.length_append, whole]
  have same : (header ++ payload).length = layout.frameLength stated ↔
      payload.length = stated.toNat := by
    rw [size, frameLength, Nat.add_left_cancel_iff]
  rw [check_of_shown (size ▸ Nat.le_add_right _ _) found]
  simp only [same]
  by_cases exactly : payload.length = stated.toNat
  · simp only [exactly, if_true, Payload.ofStated?, dif_pos]
    rfl
  · simp only [exactly, if_false, Payload.ofStated?, dif_neg, not_false_eq_true]
    rfl

/-- Behind a check that judges as a decoder does, reads that find the fields of every frame find those
of whatever is decoded. -/
theorem guarded_eq_decode {α β : Type} {encode : α → Bytes} {decode : Bytes → Except FrameError α}
    {fields : α → β} {reads : Bytes → Guarded β}
    (judged : ∀ bytes, layout.check bytes = some ((decode bytes).map fun _ => ()))
    (exactly : ∀ bytes frame, decode bytes = .ok frame → encode frame = bytes)
    (found : ∀ frame, reads (encode frame) = pure (fields frame)) (bytes : Bytes) :
    (do layout.check bytes; reads bytes : Guarded β) = some ((decode bytes).map fields) := by
  rw [judged]
  cases decoded : decode bytes with
  | error error => rfl
  | ok frame =>
      obtain rfl := exactly bytes frame decoded
      exact found frame

end Layout

namespace Request

/-- Off the front, byte by byte; what is left is the payload. -/
def takeFields (bytes : Bytes) : Guarded (UInt8 × UInt8 × UInt8 × Bytes) := do
  let (target, rest) ← Guarded.takeByte bytes
  let (operation, rest) ← Guarded.takeByte rest
  let (_, rest) ← Guarded.takeByte rest
  let (crc, payload) ← Guarded.takeByte rest
  return (target, operation, crc, payload)

def read (bytes : Bytes) : Guarded (UInt8 × UInt8 × UInt8 × Bytes) := do
  Layout.request.check bytes
  takeFields bytes

def fields (request : Request) : UInt8 × UInt8 × UInt8 × Bytes :=
  (request.target, request.operation, request.crc, request.payload.bytes)

theorem check_eq_decode (bytes : Bytes) :
    Layout.request.check bytes = some ((decode bytes).map fun _ => ()) := by
  match bytes with
  | [] | [_] | [_, _] | [_, _, _] => rfl
  | target :: operation :: stated :: crc :: payload =>
      have whole : [target, operation, stated, crc].length = Layout.request.headerSize := rfl
      exact Layout.check_append (Request.mk target operation crc) whole rfl

theorem takeFields_encode (request : Request) :
    takeFields request.encode = pure request.fields := rfl

theorem read_eq_decode (bytes : Bytes) : read bytes = some ((decode bytes).map fields) :=
  Layout.guarded_eq_decode check_eq_decode (fun _ _ => encode_of_decode) takeFields_encode bytes

end Request

namespace Response

/-- Off the front, byte by byte; what is left is the payload. -/
def takeFields (bytes : Bytes) : Guarded (UInt8 × UInt8 × Bytes) := do
  let (code, rest) ← Guarded.takeByte bytes
  let (_, rest) ← Guarded.takeByte rest
  let (crc, payload) ← Guarded.takeByte rest
  return (code, crc, payload)

/-- At their positions. -/
def lookAtFields (bytes : Bytes) : Guarded (UInt8 × UInt8 × Bytes) := do
  let code ← Guarded.byteAt bytes 0
  let crc ← Guarded.byteAt bytes 2
  let payload ← Guarded.behind bytes Layout.response.headerSize
  return (code, crc, payload)

def read (bytes : Bytes) : Guarded (UInt8 × UInt8 × Bytes) := do
  Layout.response.check bytes
  takeFields bytes

def readInPlace (bytes : Bytes) : Guarded (UInt8 × UInt8 × Bytes) := do
  Layout.response.check bytes
  lookAtFields bytes

def fields (response : Response) : UInt8 × UInt8 × Bytes :=
  (response.code, response.crc, response.payload.bytes)

theorem check_eq_decode (bytes : Bytes) :
    Layout.response.check bytes = some ((decode bytes).map fun _ => ()) := by
  match bytes with
  | [] | [_] | [_, _] => rfl
  | code :: stated :: crc :: payload =>
      have whole : [code, stated, crc].length = Layout.response.headerSize := rfl
      exact Layout.check_append (Response.mk code crc) whole rfl

theorem takeFields_encode (response : Response) :
    takeFields response.encode = pure response.fields := rfl

theorem lookAtFields_encode (response : Response) :
    lookAtFields response.encode = pure response.fields := rfl

theorem read_eq_decode (bytes : Bytes) : read bytes = some ((decode bytes).map fields) :=
  Layout.guarded_eq_decode check_eq_decode (fun _ _ => encode_of_decode) takeFields_encode bytes

theorem readInPlace_eq_decode (bytes : Bytes) :
    readInPlace bytes = some ((decode bytes).map fields) :=
  Layout.guarded_eq_decode check_eq_decode (fun _ _ => encode_of_decode) lookAtFields_encode bytes

end Response

theorem map_eq_error_iff {α β ε : Type} {outcome : Except ε α} {build : α → β} {error : ε} :
    outcome.map build = .error error ↔ outcome = .error error := by
  cases outcome <;> simp [Except.map]

/-- A decoder of frames with a header of so many bytes, the length byte at an offset among them, that
fails by the length of a buffer and by nothing else. -/
structure FailsByLength {α : Type} (header offset : Nat) (decode : Bytes → Except FrameError α) :
    Prop where
  error_iff (bytes : Bytes) (error : FrameError) : decode bytes = .error error ↔
    bytes.length < header ∧ error = .malformed header bytes.length ∨
      ∃ stated, header ≤ bytes.length ∧ bytes[offset]? = some stated ∧
        bytes.length ≠ header + stated.toNat ∧
        error = .malformed (header + stated.toNat) bytes.length
  blind (bytes others : Bytes) : bytes.length = others.length → bytes[offset]? = others[offset]? →
    (decode bytes).map (fun _ => ()) = (decode others).map fun _ => ()

theorem Layout.check_congr (size : bytes.length = others.length)
    (shown : bytes[layout.lengthOffset]? = others[layout.lengthOffset]?) :
    layout.check bytes = layout.check others := by
  simp only [check, Guarded.byteAt, size, shown]

theorem Layout.failsByLength {α : Type} {decode : Bytes → Except FrameError α} (layout : Layout)
    (judged : ∀ bytes, layout.check bytes = some ((decode bytes).map fun _ => ())) :
    FailsByLength layout.headerSize layout.lengthOffset decode := by
  constructor
  · intro bytes error
    have failed : layout.check bytes = some (.error error) ↔ decode bytes = .error error := by
      rw [judged, Option.some_inj, map_eq_error_iff]
    exact failed.symm.trans check_eq_error_iff
  · intro bytes others size shown
    have same := check_congr size shown
    rw [judged, judged] at same
    exact Option.some.inj same

/-- All ways of reading a response come to the same; none of them, nor that of reading a request,
reads a byte that is not there; and each fails exactly when a buffer is too short for the header or is
not as long as its length byte says, with an error that tells both lengths. -/
theorem decoders_agree :
    (∀ bytes, Response.decodeInPlace bytes = Response.decode bytes ∧
        decodeResponse bytes = Response.decode bytes) ∧
      (∀ bytes, Response.read bytes = some ((Response.decode bytes).map Response.fields) ∧
        Response.readInPlace bytes = some ((Response.decodeInPlace bytes).map Response.fields) ∧
        Request.read bytes = some ((Request.decode bytes).map Request.fields)) ∧
      FailsByLength 3 1 Response.decode ∧ FailsByLength 3 1 Response.decodeInPlace ∧
      FailsByLength 3 1 decodeResponse ∧ FailsByLength 4 2 Request.decode := by
  have responses := Layout.response.failsByLength Response.check_eq_decode
  have inPlace : Response.decodeInPlace = Response.decode := funext Response.decodeInPlace_eq_decode
  refine ⟨fun bytes => ⟨Response.decodeInPlace_eq_decode bytes, rfl⟩, ?_, responses, ?_, responses,
    Layout.request.failsByLength Request.check_eq_decode⟩
  · intro bytes
    refine ⟨Response.read_eq_decode bytes, ?_, Request.read_eq_decode bytes⟩
    rw [inPlace]
    exact Response.readInPlace_eq_decode bytes
  · rw [inPlace]
    exact responses

end SerialLink
