import SerialLink.Stream.Segmentation

namespace SerialLink.Layout

/-! What it means to cut a stream into frames.

The length byte alone decides where a frame ends, and it stands inside the header.  So of two frames
that a stream begins with, both are the same, and a stream can be cut in one way only.
-/

variable {layout : Layout} {stream frame front back rest : Bytes} {length : Nat}

/-- The length of the frame that these bytes begin, once its length byte is among them. -/
def lengthOf? (layout : Layout) (bytes : Bytes) : Option Nat :=
  bytes[layout.lengthOffset]?.map layout.frameLength

/-- As long as its own length byte says. -/
def IsFrame (layout : Layout) (frame : Bytes) : Prop :=
  layout.lengthOf? frame = some frame.length

/-- A strict beginning of a frame: its length byte is not there, or asks for more bytes. -/
def IsUnfinished (layout : Layout) (rest : Bytes) : Prop :=
  ∀ length, layout.lengthOf? rest = some length → rest.length < length

structure IsSegmentation (layout : Layout) (stream : Bytes) (frames : List Bytes) (rest : Bytes) :
    Prop where
  flatten : frames.flatten ++ rest = stream
  complete : ∀ frame ∈ frames, layout.IsFrame frame
  unfinished : layout.IsUnfinished rest

theorem lengthOf?_eq_none_iff : layout.lengthOf? front = none ↔ front.length < layout.sizedAt := by
  simp only [lengthOf?, Option.map_eq_none_iff, List.getElem?_eq_none_iff, sizedAt]
  omega

theorem lengthOf?_append (shown : layout.lengthOf? front = some length) :
    layout.lengthOf? (front ++ back) = some length := by
  obtain ⟨stated, found, rfl⟩ := Option.map_eq_some_iff.mp shown
  obtain ⟨within, _⟩ := List.getElem?_eq_some_iff.mp found
  rw [lengthOf?, List.getElem?_append_left within, found, Option.map_some]

theorem lengthOf?_concat {byte : UInt8} (reached : front.length = layout.lengthOffset) :
    layout.lengthOf? (front ++ [byte]) = some (layout.frameLength byte) := by
  rw [lengthOf?, ← reached, List.getElem?_concat_length, Option.map_some]

theorem headerSize_le_of_lengthOf? (shown : layout.lengthOf? front = some length) :
    layout.headerSize ≤ length := by
  obtain ⟨stated, _, rfl⟩ := Option.map_eq_some_iff.mp shown
  exact Nat.le_add_right _ _

theorem IsFrame.headerSize_le (whole : layout.IsFrame frame) :
    layout.headerSize ≤ frame.length :=
  headerSize_le_of_lengthOf? whole

theorem IsFrame.lengthOffset_lt (whole : layout.IsFrame frame) :
    layout.lengthOffset < frame.length :=
  Nat.lt_of_lt_of_le layout.sizedAt_le_headerSize whole.headerSize_le

theorem isUnfinished_nil : layout.IsUnfinished [] := by
  intro length shown
  exact absurd shown (by simp [lengthOf?])

theorem IsUnfinished.length_lt (unfinished : layout.IsUnfinished rest) :
    rest.length < layout.maxFrame := by
  have header := layout.sizedAt_le_headerSize
  cases shown : layout.lengthOf? rest with
  | none =>
      have short := lengthOf?_eq_none_iff.mp shown
      simp only [maxFrame]
      omega
  | some length =>
      have shorter := unfinished length shown
      obtain ⟨stated, _, rfl⟩ := Option.map_eq_some_iff.mp shown
      exact Nat.lt_of_lt_of_le shorter (layout.frameLength_le_maxFrame stated)

/-- No frame is a strict beginning of another, nor is one followed by bytes unfinished. -/
theorem IsFrame.length_eq_of_prefix (whole : layout.IsFrame frame)
    (shown : layout.lengthOf? (frame ++ back) = some length) : frame.length = length := by
  have same : layout.lengthOf? (frame ++ back) = some frame.length := lengthOf?_append whole
  rw [shown] at same
  exact (Option.some.inj same).symm

theorem IsFrame.eq_of_append_eq {other : Bytes} (whole : layout.IsFrame frame)
    (otherWhole : layout.IsFrame other) (same : frame ++ front = other ++ back) :
    frame = other ∧ front = back := by
  have shown : layout.lengthOf? (frame ++ front) = some other.length := by
    rw [same]
    exact lengthOf?_append otherWhole
  exact List.append_inj same (whole.length_eq_of_prefix shown)

theorem IsFrame.not_isUnfinished_append (whole : layout.IsFrame frame) :
    ¬ layout.IsUnfinished (frame ++ back) := by
  intro unfinished
  have shorter := unfinished frame.length (lengthOf?_append whole)
  rw [List.length_append] at shorter
  omega

theorem IsSegmentation.unique {frames otherFrames : List Bytes} {otherRest : Bytes}
    (cut : layout.IsSegmentation stream frames rest)
    (otherCut : layout.IsSegmentation stream otherFrames otherRest) :
    frames = otherFrames ∧ rest = otherRest := by
  induction frames generalizing stream otherFrames with
  | nil =>
      cases otherFrames with
      | nil => exact ⟨rfl, cut.flatten.trans otherCut.flatten.symm⟩
      | cons other others =>
          have same : rest = other ++ (others.flatten ++ otherRest) := by
            have flattened := cut.flatten.trans otherCut.flatten.symm
            simpa only [List.flatten_nil, List.nil_append, List.flatten_cons,
              List.append_assoc] using flattened
          have unfinished := cut.unfinished
          rw [same] at unfinished
          exact absurd unfinished (otherCut.complete other (by simp)).not_isUnfinished_append
  | cons frame frames ih =>
      have whole := cut.complete frame (by simp)
      have flattened := cut.flatten
      rw [List.flatten_cons, List.append_assoc] at flattened
      cases otherFrames with
      | nil =>
          have same : otherRest = frame ++ (frames.flatten ++ rest) :=
            otherCut.flatten.trans flattened.symm
          have unfinished := otherCut.unfinished
          rw [same] at unfinished
          exact absurd unfinished whole.not_isUnfinished_append
      | cons other others =>
          have otherFlattened := otherCut.flatten
          rw [List.flatten_cons, List.append_assoc] at otherFlattened
          obtain ⟨rfl, remaining⟩ := whole.eq_of_append_eq (otherCut.complete other (by simp))
            (flattened.trans otherFlattened.symm)
          obtain ⟨rfl, rfl⟩ := ih
            ⟨rfl, fun next member => cut.complete next (by simp [member]), cut.unfinished⟩
            ⟨remaining.symm, fun next member => otherCut.complete next (by simp [member]),
              otherCut.unfinished⟩
          exact ⟨rfl, rfl⟩

theorem frameAtFront?_eq_some (complete : layout.frameAtFront? stream = some length) :
    layout.lengthOf? stream = some length ∧ length ≤ stream.length := by
  unfold frameAtFront? at complete
  split at complete
  · contradiction
  · rename_i stated found
    split at complete
    · rename_i enough
      cases complete
      exact ⟨by rw [lengthOf?, found, Option.map_some], enough⟩
    · contradiction

theorem frameAtFront?_eq_none (incomplete : layout.frameAtFront? stream = none) :
    layout.IsUnfinished stream := by
  intro length shown
  obtain ⟨stated, found, rfl⟩ := Option.map_eq_some_iff.mp shown
  simp only [frameAtFront?, found] at incomplete
  split at incomplete
  · contradiction
  · rename_i more
    exact Nat.lt_of_not_le more

theorem isFrame_take (shown : layout.lengthOf? stream = some length)
    (enough : length ≤ stream.length) : layout.IsFrame (stream.take length) := by
  have header := headerSize_le_of_lengthOf? shown
  have inside := layout.sizedAt_le_headerSize
  have found : (stream.take length)[layout.lengthOffset]? = stream[layout.lengthOffset]? := by
    apply List.getElem?_take_of_lt
    simp only [sizedAt] at inside
    omega
  rw [IsFrame, lengthOf?, found, List.length_take_of_le enough]
  exact shown

theorem isSegmentation_segment (layout : Layout) (stream : Bytes) :
    layout.IsSegmentation stream (layout.segment stream).1 (layout.segment stream).2 := by
  refine ⟨layout.segment_flatten stream, ?_, ?_⟩
  · fun_induction layout.segment stream with
    | case1 => exact List.forall_mem_nil _
    | case2 stream length complete _ frames rest tail ih =>
        obtain ⟨shown, enough⟩ := frameAtFront?_eq_some complete
        rw [tail] at ih
        exact List.forall_mem_cons.mpr ⟨isFrame_take shown enough, ih⟩
  · fun_induction layout.segment stream with
    | case1 stream incomplete => exact frameAtFront?_eq_none incomplete
    | case2 stream length complete _ frames rest tail ih =>
        rw [tail] at ih
        exact ih

theorem IsSegmentation.segment_eq {frames : List Bytes}
    (cut : layout.IsSegmentation stream frames rest) : layout.segment stream = (frames, rest) := by
  obtain ⟨sameFrames, sameRest⟩ := (layout.isSegmentation_segment stream).unique cut
  exact Prod.ext sameFrames sameRest

theorem IsFrame.segment_append (whole : layout.IsFrame frame) (rest : Bytes) :
    layout.segment (frame ++ rest) =
      (frame :: (layout.segment rest).1, (layout.segment rest).2) := by
  have cut := layout.isSegmentation_segment rest
  apply IsSegmentation.segment_eq
  refine ⟨?_, List.forall_mem_cons.mpr ⟨whole, cut.complete⟩, cut.unfinished⟩
  rw [List.flatten_cons, List.append_assoc, cut.flatten]

theorem IsUnfinished.segment_eq (unfinished : layout.IsUnfinished rest) :
    layout.segment rest = ([], rest) :=
  IsSegmentation.segment_eq ⟨rfl, List.forall_mem_nil _, unfinished⟩

end SerialLink.Layout
