import SerialLink.Proofs.Stream.Segmentation
import SerialLink.Stream.Reassembler

namespace SerialLink.Reassembler

open Layout

/-! What a reassembler makes of a stream.

The state is a function of the bytes of the frame under way: the length it has latched is the one
that these bytes show.  Every byte keeps this, and a frame is handed out exactly when the bytes
under way have become one.
-/

variable {layout : Layout} {reassembler fed : Reassembler} {byte : UInt8} {chunk : Bytes}

theorem feed_of_sized {length : Nat} (sized : reassembler.expected = some length) (byte : UInt8) :
    reassembler.feed byte =
      if length = reassembler.buffer.size + 1
      then (some (reassembler.buffer.push byte).toList, empty reassembler.layout)
      else (none, { reassembler with buffer := reassembler.buffer.push byte }) := by
  obtain ⟨layout, buffer, expected⟩ := reassembler
  cases sized
  simp only [feed, Array.size_push, Option.some.injEq]

theorem feed_of_unsized (unsized : reassembler.expected = none) (byte : UInt8) :
    reassembler.feed byte =
      (none, { reassembler with
        buffer := reassembler.buffer.push byte
        expected :=
          if reassembler.buffer.size + 1 = reassembler.layout.sizedAt
          then some (reassembler.layout.frameLength byte) else none }) := by
  obtain ⟨layout, buffer, expected⟩ := reassembler
  cases unsized
  simp only [feed, Array.size_push]
  -- A length that has just been seen is longer than what shows it.
  apply if_neg
  intro complete
  split at complete
  · have longer := layout.sizedAt_lt_frameLength byte
    have same := Option.some.inj complete
    omega
  · contradiction

/-- The state that the bytes under way ask for. -/
structure Consistent (layout : Layout) (reassembler : Reassembler) : Prop where
  layout_eq : reassembler.layout = layout
  expected_eq : reassembler.expected = layout.lengthOf? reassembler.buffer.toList
  unfinished : layout.IsUnfinished reassembler.buffer.toList

theorem consistent_empty (layout : Layout) : (empty layout).Consistent layout :=
  ⟨rfl, by simp [empty, lengthOf?], isUnfinished_nil⟩

/-- The bytes under way are all there is to a state. -/
theorem Consistent.eq_of_buffer {other : Reassembler} (consistent : reassembler.Consistent layout)
    (otherwise : other.Consistent layout)
    (same : reassembler.buffer.toList = other.buffer.toList) : reassembler = other := by
  obtain ⟨known, buffer, expected⟩ := reassembler
  obtain ⟨otherKnown, otherBuffer, otherExpected⟩ := other
  obtain ⟨rfl, sized, _⟩ := consistent
  obtain ⟨rfl, otherSized, _⟩ := otherwise
  obtain rfl : buffer = otherBuffer := Array.toList_inj.mp same
  exact congrArg (Reassembler.mk otherKnown buffer) (sized.trans otherSized.symm)

theorem Consistent.eq_empty (consistent : reassembler.Consistent layout)
    (nothing : reassembler.buffer.toList = []) : reassembler = empty layout :=
  consistent.eq_of_buffer (consistent_empty layout) nothing

/-- A byte is judged by all the bytes under way, whatever was latched when. -/
theorem Consistent.feed_eq (consistent : reassembler.Consistent layout) (byte : UInt8) :
    reassembler.feed byte =
      if layout.lengthOf? (reassembler.buffer.toList ++ [byte]) = some (reassembler.buffer.size + 1)
      then (some (reassembler.buffer.toList ++ [byte]), empty layout)
      else (none, ⟨layout, reassembler.buffer.push byte,
        layout.lengthOf? (reassembler.buffer.toList ++ [byte])⟩) := by
  obtain ⟨known, buffer, expected⟩ := reassembler
  obtain rfl := consistent.layout_eq
  have sized : known.lengthOf? buffer.toList = expected := consistent.expected_eq.symm
  cases expected with
  | some length =>
      have shown : known.lengthOf? (buffer.toList ++ [byte]) = some length :=
        lengthOf?_append sized
      simp only [feed, shown, Array.toList_push, Array.size_push]
  | none =>
      have short := lengthOf?_eq_none_iff.mp sized
      rw [Array.length_toList] at short
      by_cases reached : buffer.size + 1 = known.sizedAt
      · have shown : known.lengthOf? (buffer.toList ++ [byte]) = some (known.frameLength byte) :=
          lengthOf?_concat (Nat.succ.inj reached)
        simp only [feed, shown, reached, if_true, Array.toList_push, Array.size_push]
      · have hidden : known.lengthOf? (buffer.toList ++ [byte]) = none := by
          rw [lengthOf?_eq_none_iff, List.length_append, Array.length_toList,
            List.length_singleton]
          omega
        simp only [feed, hidden, reached, if_false, Array.toList_push, Array.size_push]

/-- One more byte leaves the frame under way unfinished or completes it. -/
theorem Consistent.concat_bound (consistent : reassembler.Consistent layout) {length : Nat}
    (shown : layout.lengthOf? (reassembler.buffer.toList ++ [byte]) = some length) :
    reassembler.buffer.size + 1 ≤ length := by
  cases known : layout.lengthOf? reassembler.buffer.toList with
  | some earlier =>
      have shorter := consistent.unfinished earlier known
      rw [lengthOf?_append known] at shown
      rw [Array.length_toList, Option.some.inj shown] at shorter
      exact shorter
  | none =>
      have short := lengthOf?_eq_none_iff.mp known
      have header := headerSize_le_of_lengthOf? shown
      have sized := layout.sizedAt_le_headerSize
      rw [Array.length_toList] at short
      omega

theorem feed_cases (consistent : reassembler.Consistent layout) (byte : UInt8) :
    (∃ frame, reassembler.feed byte = (some frame, empty layout) ∧ layout.IsFrame frame ∧
        frame = reassembler.buffer.toList ++ [byte]) ∨
      ∃ fed, reassembler.feed byte = (none, fed) ∧ fed.Consistent layout ∧
        fed.buffer.toList = reassembler.buffer.toList ++ [byte] := by
  have judged := consistent.feed_eq byte
  have size : (reassembler.buffer.toList ++ [byte]).length = reassembler.buffer.size + 1 := by
    rw [List.length_append, Array.length_toList, List.length_singleton]
  by_cases whole : layout.lengthOf? (reassembler.buffer.toList ++ [byte]) =
      some (reassembler.buffer.size + 1)
  · rw [if_pos whole] at judged
    exact .inl ⟨_, judged, by rw [IsFrame, whole, size], rfl⟩
  · rw [if_neg whole] at judged
    refine .inr ⟨_, judged, ⟨rfl, by rw [Array.toList_push], ?_⟩, Array.toList_push⟩
    rw [Array.toList_push]
    intro length shown
    have bound := consistent.concat_bound shown
    rw [size]
    refine Nat.lt_of_le_of_ne bound ?_
    rintro rfl
    exact whole shown

theorem Consistent.feed (consistent : reassembler.Consistent layout) (byte : UInt8) :
    (reassembler.feed byte).2.Consistent layout := by
  rcases feed_cases consistent byte with ⟨frame, feeding, _⟩ | ⟨fed, feeding, next, _⟩
  · rw [feeding]
    exact consistent_empty layout
  · rw [feeding]
    exact next

theorem feedAll_consistent (consistent : reassembler.Consistent layout) (chunk : Bytes) :
    (reassembler.feedAll chunk).2.Consistent layout ∧
      layout.IsSegmentation (reassembler.buffer.toList ++ chunk) (reassembler.feedAll chunk).1
        (reassembler.feedAll chunk).2.buffer.toList := by
  induction chunk generalizing reassembler with
  | nil => exact ⟨consistent, by simp [feedAll], by simp [feedAll], consistent.unfinished⟩
  | cons byte rest ih =>
      rcases feed_cases consistent byte with
        ⟨frame, feeding, whole, grown⟩ | ⟨fed, feeding, next, grown⟩
      -- A frame ends here: what is under way is empty again, and the rest is cut on its own.
      · obtain ⟨last, cut⟩ := ih (consistent_empty layout)
        simp only [feedAll, feeding, Option.toList_some, List.singleton_append]
        refine ⟨last, ?_, ?_, cut.unfinished⟩
        · have flattened : (((empty layout).feedAll rest).1.flatten ++
              ((empty layout).feedAll rest).2.buffer.toList) = rest := cut.flatten
          rw [List.flatten_cons, List.append_assoc, flattened, grown, List.append_assoc,
            List.singleton_append]
        · exact List.forall_mem_cons.mpr ⟨whole, cut.complete⟩
      · obtain ⟨last, cut⟩ := ih next
        rw [grown, List.append_assoc, List.singleton_append] at cut
        simp only [feedAll, feeding, Option.toList_none, List.nil_append]
        exact ⟨last, cut⟩

/-- Byte by byte or by its length fields, a stream is cut in the same way. -/
theorem feedAll_frames (layout : Layout) (stream : Bytes) :
    ((empty layout).feedAll stream).1 = (layout.segment stream).1 := by
  obtain ⟨_, cut⟩ := feedAll_consistent (consistent_empty layout) stream
  exact (cut.unique (layout.isSegmentation_segment stream)).1

/-- Whatever has been fed to it, a reassembler stays consistent and hands out nothing but frames. -/
theorem Consistent.of_feedAll {frames : List Bytes} (consistent : reassembler.Consistent layout)
    (feeding : reassembler.feedAll chunk = (frames, fed)) :
    fed.Consistent layout ∧ ∀ frame ∈ frames, layout.IsFrame frame := by
  obtain ⟨last, cut⟩ := feedAll_consistent consistent chunk
  rw [feeding] at last cut
  exact ⟨last, cut.complete⟩

/-- Taking one frame off a chunk is feeding the bytes in front of what it leaves. -/
theorem next_consumed {outcome : Option Bytes} {rest : Bytes}
    (took : reassembler.next chunk = (outcome, fed, rest)) :
    ∃ consumed, chunk = consumed ++ rest ∧
      reassembler.feedAll consumed = (outcome.toList, fed) ∧ (outcome = none → rest = []) := by
  fun_induction reassembler.next chunk with
  | case1 =>
      cases took
      exact ⟨[], rfl, rfl, fun _ => rfl⟩
  | case2 reassembler byte chunk frame fed feeding =>
      cases took
      refine ⟨[byte], rfl, ?_, by simp⟩
      simp only [feedAll, feeding, Option.toList_some, List.append_nil]
  | case3 reassembler byte chunk fed feeding ih =>
      obtain ⟨consumed, rfl, fedAll, drained⟩ := ih took
      refine ⟨byte :: consumed, rfl, ?_, drained⟩
      simp only [feedAll, feeding, Option.toList_none, List.nil_append, fedAll]

theorem buffer_of_feed_none (quiet : reassembler.feed byte = (none, fed)) :
    fed.buffer = reassembler.buffer.push byte := by
  obtain ⟨layout, buffer, sized⟩ := reassembler
  have pushed (expected : Option Nat)
      (unfinished : (if expected = some (buffer.push byte).size
        then (some (buffer.push byte).toList, empty layout)
        else (none, ⟨layout, buffer.push byte, expected⟩)) = (none, fed)) :
      fed.buffer = buffer.push byte := by
    split at unfinished
    · cases unfinished
    · cases unfinished
      rfl
  exact pushed _ quiet

/-- Bytes that complete no frame are all still there. -/
theorem buffer_of_feedAll_nil (fedAll : reassembler.feedAll chunk = ([], fed)) :
    fed.buffer.toList = reassembler.buffer.toList ++ chunk := by
  induction chunk generalizing reassembler with
  | nil =>
      cases fedAll
      exact (List.append_nil _).symm
  | cons byte rest ih =>
      rcases feeding : reassembler.feed byte with ⟨outcome, next⟩
      cases outcome with
      | some frame => simp [feedAll, feeding] at fedAll
      | none =>
          simp only [feedAll, feeding, Option.toList_none, List.nil_append] at fedAll
          rw [ih fedAll, buffer_of_feed_none feeding, Array.toList_push, List.append_assoc,
            List.singleton_append]

/-- The frames handed out and the bytes under way are the only way to cut the stream, and the state
in the end shows how far the frame under way has come. -/
theorem feedAll_segmentation (layout : Layout) (stream : Bytes) :
    let fed := (empty layout).feedAll stream
    let rest := fed.2.buffer.toList
    (∀ frames tail, layout.IsSegmentation stream frames tail ↔ frames = fed.1 ∧ tail = rest) ∧
      (rest.length < layout.sizedAt ∧ fed.2.expected = none ∨
        ∃ stated, rest[layout.lengthOffset]? = some stated ∧
          rest.length < layout.headerSize + stated.toNat ∧
          fed.2.expected = some (layout.headerSize + stated.toNat)) := by
  intro fed rest
  obtain ⟨consistent, cut⟩ := feedAll_consistent (consistent_empty layout) stream
  constructor
  · intro frames tail
    constructor
    · intro otherCut
      exact otherCut.unique cut
    · rintro ⟨rfl, rfl⟩
      exact cut
  · cases shown : layout.lengthOf? rest with
    | none =>
        exact .inl ⟨lengthOf?_eq_none_iff.mp shown, consistent.expected_eq.trans shown⟩
    | some length =>
        obtain ⟨stated, found, rfl⟩ := Option.map_eq_some_iff.mp shown
        exact .inr ⟨stated, found, consistent.unfinished _ shown,
          consistent.expected_eq.trans shown⟩

end SerialLink.Reassembler
