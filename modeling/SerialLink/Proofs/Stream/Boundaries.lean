import SerialLink.Proofs.Stream.Reassembly

namespace SerialLink

/-! What decides where frames end.

Of all the bytes of a stream only those count that stand where a length is read.  Two reassemblers
that are fed different bytes stay abreast as long as these are the same, and no longer.
-/

namespace Layout

variable {layout : Layout} {frame front rest : Bytes} {byte : UInt8} {position : Nat}

/-- A length byte of the stream stands here: at its offset in one of the frames that the stream is
cut into, or in what is left behind them. -/
def IsLengthByte (layout : Layout) (stream : Bytes) (position : Nat) : Prop :=
  ∃ before piece behind,
    (layout.segment stream).1 ++ [(layout.segment stream).2] = before ++ piece :: behind ∧
      layout.lengthOffset < piece.length ∧
      position = before.flatten.length + layout.lengthOffset

theorem IsFrame.isLengthByte_append_iff (whole : layout.IsFrame frame) :
    layout.IsLengthByte (frame ++ rest) position ↔ position = layout.lengthOffset ∨
      ∃ later, layout.IsLengthByte rest later ∧ position = frame.length + later := by
  simp only [IsLengthByte, whole.segment_append, List.cons_append]
  constructor
  · rintro ⟨before, piece, behind, split, shown, rfl⟩
    cases before with
    | nil => exact .inl (Nat.zero_add _)
    | cons first before =>
        obtain ⟨rfl, left⟩ := List.cons_eq_cons.mp split
        refine .inr ⟨_, ⟨before, piece, behind, left, shown, rfl⟩, ?_⟩
        rw [List.flatten_cons, List.length_append, Nat.add_assoc]
  · rintro (rfl | ⟨_, ⟨before, piece, behind, split, shown, rfl⟩, rfl⟩)
    · exact ⟨[], frame, _, rfl, whole.lengthOffset_lt, (Nat.zero_add _).symm⟩
    · refine ⟨frame :: before, piece, behind, ?_, shown, ?_⟩
      · rw [split, List.cons_append]
      · rw [List.flatten_cons, List.length_append, Nat.add_assoc]

/-- The length bytes behind a frame are those of what follows it. -/
theorem IsFrame.isLengthByte_behind_iff (whole : layout.IsFrame frame) :
    layout.IsLengthByte (frame ++ rest) (frame.length + position) ↔
      layout.IsLengthByte rest position := by
  rw [whole.isLengthByte_append_iff]
  constructor
  · rintro (inside | ⟨later, found, same⟩)
    · have offset := whole.lengthOffset_lt
      omega
    · rwa [Nat.add_left_cancel same]
  · intro found
    exact .inr ⟨position, found, rfl⟩

theorem IsUnfinished.isLengthByte_iff (unfinished : layout.IsUnfinished rest) :
    layout.IsLengthByte rest position ↔
      layout.lengthOffset < rest.length ∧ position = layout.lengthOffset := by
  simp only [IsLengthByte, unfinished.segment_eq, List.nil_append]
  constructor
  · rintro ⟨before, piece, behind, split, shown, rfl⟩
    obtain ⟨rfl, rfl, rfl⟩ : before = [] ∧ piece = rest ∧ behind = [] := by
      cases before with
      | nil =>
          obtain ⟨same, nothing⟩ := List.cons_eq_cons.mp split
          exact ⟨rfl, same.symm, nothing.symm⟩
      | cons first before => simp at split
    exact ⟨shown, Nat.zero_add _⟩
  · rintro ⟨shown, rfl⟩
    exact ⟨[], rest, [], rfl, shown, (Nat.zero_add _).symm⟩

/-- Behind an unfinished frame, the next byte is a length byte if it comes to stand where one is. -/
theorem IsUnfinished.isLengthByte_next_iff (unfinished : layout.IsUnfinished front) :
    layout.IsLengthByte (front ++ byte :: rest) front.length ↔
      front.length = layout.lengthOffset := by
  cases complete : layout.frameAtFront? (front ++ byte :: rest) with
  | none =>
      rw [(frameAtFront?_eq_none complete).isLengthByte_iff]
      simp only [List.length_append, List.length_cons, and_iff_right_iff_imp]
      omega
  | some length =>
      obtain ⟨shown, enough⟩ := frameAtFront?_eq_some complete
      have whole := isFrame_take shown enough
      have exactly : ((front ++ byte :: rest).take length).length = length :=
        List.length_take_of_le enough
      rw [← List.take_append_drop length (front ++ byte :: rest), whole.isLengthByte_append_iff,
        exactly]
      refine or_iff_left ?_
      rintro ⟨later, _, behind⟩
      -- The frame at the front would lie within bytes that are not yet a frame.
      have offset := whole.lengthOffset_lt
      cases known : layout.lengthOf? front with
      | none =>
          have short := lengthOf?_eq_none_iff.mp known
          simp only [sizedAt] at short
          omega
      | some stated =>
          have longer := unfinished stated known
          rw [lengthOf?_append known] at shown
          cases shown
          omega

end Layout

namespace Reassembler

open Layout

variable {layout : Layout} {reassembler other : Reassembler} {byte otherByte : UInt8}
  {stream rest otherStream otherRest : Bytes}

/-- The other has come as far with its frame, whatever the bytes of it. -/
structure Abreast (reassembler other : Reassembler) : Prop where
  layout_eq : other.layout = reassembler.layout
  size_eq : other.buffer.size = reassembler.buffer.size
  expected_eq : other.expected = reassembler.expected

theorem Abreast.refl (reassembler : Reassembler) : reassembler.Abreast reassembler :=
  ⟨rfl, rfl, rfl⟩

/-- A byte that is not a length byte moves both alike, and so does the same length byte. -/
theorem Abreast.feed (abreast : reassembler.Abreast other)
    (same : reassembler.buffer.size = reassembler.layout.lengthOffset → otherByte = byte) :
    (other.feed otherByte).1.map List.length = (reassembler.feed byte).1.map List.length ∧
      (reassembler.feed byte).2.Abreast (other.feed otherByte).2 := by
  obtain ⟨layout_eq, size_eq, expected_eq⟩ := abreast
  cases known : reassembler.expected with
  | some length =>
      rw [feed_of_sized known, feed_of_sized (expected_eq.trans known), size_eq, layout_eq]
      by_cases complete : length = reassembler.buffer.size + 1
      · rw [if_pos complete, if_pos complete]
        refine ⟨?_, .refl _⟩
        simp only [Option.map_some, Array.length_toList, Array.size_push, size_eq]
      · rw [if_neg complete, if_neg complete]
        refine ⟨rfl, rfl, ?_, expected_eq⟩
        simp only [Array.size_push, size_eq]
  | none =>
      rw [feed_of_unsized known, feed_of_unsized (expected_eq.trans known)]
      refine ⟨rfl, layout_eq, ?_, ?_⟩
      · simp only [Array.size_push, size_eq]
      · simp only [size_eq, layout_eq]
        by_cases reached : reassembler.buffer.size + 1 = reassembler.layout.sizedAt
        · rw [same (Nat.succ.inj reached)]
        · rw [if_neg reached, if_neg reached]

/-- What each byte of a chunk completes, but for the bytes of it. -/
def completions (reassembler : Reassembler) (chunk : Bytes) : List (Option Nat) :=
  (reassembler.feedEach chunk).1.map (Option.map List.length)

theorem completions_length (reassembler : Reassembler) (chunk : Bytes) :
    (reassembler.completions chunk).length = chunk.length := by
  rw [completions, List.length_map, feedEach_length]

theorem completions_cons (reassembler : Reassembler) (byte : UInt8) (rest : Bytes) :
    reassembler.completions (byte :: rest) =
      (reassembler.feed byte).1.map List.length :: (reassembler.feed byte).2.completions rest := rfl

/-- Of the lengths that two reassemblers know, the runs from there on tell whether they are the
same: the shorter is seen when its frame is complete, or else in the end. -/
theorem length_eq_of_completions {length otherLength : Nat}
    (sized : reassembler.expected = some length) (otherSized : other.expected = some otherLength)
    (size_eq : other.buffer.size = reassembler.buffer.size)
    (alike : other.completions otherStream = reassembler.completions stream)
    (last : (other.feedEach otherStream).2.expected = (reassembler.feedEach stream).2.expected) :
    otherLength = length := by
  induction stream generalizing reassembler other otherStream with
  | nil =>
      obtain rfl : otherStream = [] := by
        rw [← List.length_eq_zero_iff, ← other.completions_length, alike]
        rfl
      exact Option.some.inj (otherSized.symm.trans (last.trans sized))
  | cons byte rest ih =>
      cases otherStream with
      | nil => cases alike
      | cons otherByte otherRest =>
          rw [completions_cons, completions_cons] at alike
          obtain ⟨now, later⟩ := List.cons_eq_cons.mp alike
          simp only [feedEach] at last
          rw [feed_of_sized sized, feed_of_sized otherSized, size_eq] at now later last
          by_cases complete : length = reassembler.buffer.size + 1 <;>
            by_cases otherComplete : otherLength = reassembler.buffer.size + 1
          · exact otherComplete.trans complete.symm
          · simp [if_pos complete, if_neg otherComplete] at now
          · simp [if_neg complete, if_pos otherComplete] at now
          · rw [if_neg complete, if_neg otherComplete] at later last
            refine ih ?_ ?_ ?_ later last
            · exact sized
            · exact otherSized
            · simp only [Array.size_push, size_eq]

theorem Consistent.isLengthByte_here_iff (consistent : reassembler.Consistent layout) :
    layout.IsLengthByte (reassembler.buffer.toList ++ byte :: rest) reassembler.buffer.size ↔
      reassembler.buffer.size = layout.lengthOffset := by
  rw [← Array.length_toList]
  exact consistent.unfinished.isLengthByte_next_iff

theorem Consistent.isLengthByte_later_iff (consistent : reassembler.Consistent layout)
    {position : Nat} :
    layout.IsLengthByte (reassembler.buffer.toList ++ byte :: rest)
        (reassembler.buffer.size + (position + 1)) ↔
      layout.IsLengthByte ((reassembler.feed byte).2.buffer.toList ++ rest)
        ((reassembler.feed byte).2.buffer.size + position) := by
  have grown : reassembler.buffer.toList ++ byte :: rest =
      reassembler.buffer.toList ++ [byte] ++ rest := by
    rw [List.append_assoc, List.singleton_append]
  have size : reassembler.buffer.size + (position + 1) =
      (reassembler.buffer.toList ++ [byte]).length + position := by
    rw [List.length_append, Array.length_toList, List.length_singleton]
    omega
  rw [grown, size]
  rcases feed_cases consistent byte with
    ⟨frame, feeding, whole, rfl⟩ | ⟨fed, feeding, _, same⟩
  · rw [feeding, whole.isLengthByte_behind_iff]
    simp [empty]
  · rw [feeding, ← same, Array.length_toList]

theorem Consistent.unsized_of_size_le (consistent : reassembler.Consistent layout)
    (short : reassembler.buffer.size ≤ layout.lengthOffset) : reassembler.expected = none := by
  rw [consistent.expected_eq, lengthOf?_eq_none_iff, Array.length_toList]
  exact Nat.lt_succ_of_le short

theorem expected_of_length_byte (unsized : reassembler.expected = none)
    (reached : reassembler.buffer.size = reassembler.layout.lengthOffset) (byte : UInt8) :
    (reassembler.feed byte).2.expected = some (reassembler.layout.frameLength byte) ∧
      (reassembler.feed byte).2.buffer.size = reassembler.buffer.size + 1 := by
  rw [feed_of_unsized unsized]
  exact ⟨if_pos (congrArg (· + 1) reached), Array.size_push _⟩

/-- A length byte can be told from the run behind it. -/
theorem Abreast.length_byte_eq (abreast : reassembler.Abreast other)
    (unsized : reassembler.expected = none)
    (reached : reassembler.buffer.size = reassembler.layout.lengthOffset)
    (alike : (other.feed otherByte).2.completions otherRest =
      (reassembler.feed byte).2.completions rest)
    (last : ((other.feed otherByte).2.feedEach otherRest).2.expected =
      ((reassembler.feed byte).2.feedEach rest).2.expected) :
    otherByte = byte := by
  obtain ⟨layout_eq, size_eq, expected_eq⟩ := abreast
  obtain ⟨sized, size⟩ := expected_of_length_byte unsized reached byte
  obtain ⟨otherSized, otherSize⟩ := expected_of_length_byte (expected_eq.trans unsized)
    (by rw [size_eq, layout_eq, reached]) otherByte
  have lengths := length_eq_of_completions sized otherSized
    (by rw [size, otherSize, size_eq]) alike last
  rw [layout_eq] at lengths
  exact UInt8.toNat_inj.mp (Nat.add_left_cancel lengths)

/-- From consistent states that are abreast, two streams with the same length bytes ahead are told
apart by nothing but the bytes of the frames, and any others are. -/
theorem Abreast.shares_lengths_iff (abreast : reassembler.Abreast other)
    (consistent : reassembler.Consistent layout) :
    (otherStream.length = stream.length ∧ ∀ position,
        layout.IsLengthByte (reassembler.buffer.toList ++ stream)
          (reassembler.buffer.size + position) →
        otherStream[position]? = stream[position]?) ↔
      other.completions otherStream = reassembler.completions stream ∧
        (reassembler.feedEach stream).2.Abreast (other.feedEach otherStream).2 := by
  induction stream generalizing reassembler other otherStream with
  | nil =>
      constructor
      · rintro ⟨nothing, _⟩
        obtain rfl := List.eq_nil_of_length_eq_zero nothing
        exact ⟨rfl, abreast⟩
      · rintro ⟨alike, _⟩
        obtain rfl : otherStream = [] := by
          rw [← List.length_eq_zero_iff, ← other.completions_length, alike]
          rfl
        exact ⟨rfl, fun _ _ => rfl⟩
  | cons byte rest ih =>
      cases otherStream with
      | nil => exact iff_of_false (fun agree => nomatch agree.1) (fun alike => nomatch alike.1)
      | cons otherByte otherRest =>
          have here : layout.IsLengthByte (reassembler.buffer.toList ++ byte :: rest)
              reassembler.buffer.size ↔ reassembler.buffer.size = layout.lengthOffset :=
            consistent.isLengthByte_here_iff
          constructor
          · rintro ⟨length, agree⟩
            have same : reassembler.buffer.size = reassembler.layout.lengthOffset →
                otherByte = byte := by
              rw [consistent.layout_eq]
              intro reached
              exact Option.some.inj (agree 0 (here.mpr reached))
            obtain ⟨now, next⟩ := abreast.feed same
            have behind : ∀ position,
                layout.IsLengthByte ((reassembler.feed byte).2.buffer.toList ++ rest)
                  ((reassembler.feed byte).2.buffer.size + position) →
                otherRest[position]? = rest[position]? := by
              intro position found
              exact agree (position + 1) (consistent.isLengthByte_later_iff.mpr found)
            obtain ⟨later, last⟩ :=
              (ih next (consistent.feed byte)).mp ⟨Nat.succ.inj length, behind⟩
            exact ⟨by rw [completions_cons, completions_cons, now, later], last⟩
          · rintro ⟨alike, last⟩
            rw [completions_cons, completions_cons] at alike
            obtain ⟨_, later⟩ := List.cons_eq_cons.mp alike
            -- A length byte here is known from what comes behind it, not from this step.
            have same : reassembler.buffer.size = reassembler.layout.lengthOffset →
                otherByte = byte := by
              intro reached
              have unsized := consistent.unsized_of_size_le
                (Nat.le_of_eq (reached.trans (congrArg lengthOffset consistent.layout_eq)))
              exact abreast.length_byte_eq unsized reached later last.expected_eq
            obtain ⟨_, next⟩ := abreast.feed same
            obtain ⟨length, agree⟩ := (ih next (consistent.feed byte)).mpr ⟨later, last⟩
            refine ⟨congrArg (· + 1) length, ?_⟩
            intro position found
            cases position with
            | zero =>
                rw [same (by rw [consistent.layout_eq]; exact here.mp found)]
                rfl
            | succ position => exact agree position (consistent.isLengthByte_later_iff.mp found)

theorem feedAll_lengths (reassembler : Reassembler) (chunk : Bytes) :
    (reassembler.feedAll chunk).1.map List.length =
      (reassembler.completions chunk).filterMap id := by
  rw [feedAll_eq_feedEach, completions, List.map_filterMap, List.filterMap_map]
  rfl

/-- Two streams of one length are cut at the same positions and leave the same state if they have
the same bytes where the one has its length bytes, that of an unfinished frame included; no other
byte matters, and every one of these does. -/
theorem boundaries_iff_length_bytes (layout : Layout) (stream otherStream : Bytes) :
    let fed := (empty layout).feedAll stream
    let otherFed := (empty layout).feedAll otherStream
    (otherStream.length = stream.length ∧ ∀ position,
        layout.IsLengthByte stream position → otherStream[position]? = stream[position]?) ↔
      otherFed.1.map List.length = fed.1.map List.length ∧
        (empty layout).completions otherStream = (empty layout).completions stream ∧
        otherFed.2.buffer.size = fed.2.buffer.size ∧ otherFed.2.expected = fed.2.expected := by
  intro fed otherFed
  have shares : (otherStream.length = stream.length ∧ ∀ position,
      layout.IsLengthByte stream (0 + position) →
        otherStream[position]? = stream[position]?) ↔ _ :=
    (Abreast.refl (empty layout)).shares_lengths_iff (consistent_empty layout)
  simp only [Nat.zero_add] at shares
  have last (stream : Bytes) :
      ((empty layout).feedEach stream).2 = ((empty layout).feedAll stream).2 := by
    rw [feedAll_eq_feedEach]
  rw [shares, last, last]
  constructor
  · rintro ⟨alike, abreast⟩
    refine ⟨?_, alike, abreast.size_eq, abreast.expected_eq⟩
    rw [feedAll_lengths, feedAll_lengths, alike]
  · rintro ⟨_, alike, size_eq, expected_eq⟩
    have shape (stream : Bytes) : ((empty layout).feedAll stream).2.layout = layout :=
      (feedAll_consistent (consistent_empty layout) stream).1.layout_eq
    exact ⟨alike, (shape otherStream).trans (shape stream).symm, size_eq, expected_eq⟩

/-- Another code, CRC and payload, with a cut inside the next frame. -/
example :
    let fed := (empty .response).feedAll [5, 2, 0, 7, 8, 1, 3, 0]
    let otherFed := (empty .response).feedAll [9, 2, 4, 0, 255, 6, 3, 1]
    otherFed.1.map List.length = fed.1.map List.length ∧
      otherFed.2.buffer.size = 3 ∧ otherFed.2.expected = some 6 := by decide

end Reassembler

end SerialLink
