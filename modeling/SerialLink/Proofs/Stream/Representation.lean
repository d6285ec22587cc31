import SerialLink.Proofs.Stream.Delivery

namespace SerialLink.Reassembler

open Layout

/-! The states of a reassembler whose layout is never changed.

What is buffered is always an unfinished frame, and the latched length is the one its length byte
states.  Every such state is come into, and none other; the one that a frame leaves behind it is the
one at the beginning.
-/

variable {layout : Layout} {reassembler fed : Reassembler} {chunk remainder : Bytes}
  {frames earlier later : List Bytes}

/-- The states that bytes handed over in any way, and clearing, lead to. -/
inductive Reached (layout : Layout) : Reassembler → Prop where
  | start : Reached layout (empty layout)
  | deliver {reassembler fed : Reassembler} {portion : Portion} {frames : List Bytes}
      {remainder : Bytes} (before : Reached layout reassembler)
      (delivered : reassembler.deliver portion = (frames, fed, remainder)) : Reached layout fed
  | clear {reassembler : Reassembler} (before : Reached layout reassembler) :
      Reached layout reassembler.clear

theorem Reached.consistent (reached : Reached layout reassembler) :
    reassembler.Consistent layout := by
  induction reached with
  | start => exact consistent_empty layout
  | deliver _ delivered ih =>
      obtain ⟨consumed, _, feeding⟩ := deliver_consumed delivered
      exact (ih.of_feedAll feeding).1
  | clear _ ih =>
      rw [Reassembler.clear, ih.layout_eq]
      exact consistent_empty layout

/-- The bytes under way lead from the start to where they are. -/
theorem Consistent.feedAll_buffer (consistent : reassembler.Consistent layout) :
    (empty layout).feedAll reassembler.buffer.toList = ([], reassembler) := by
  have silent := feedAll_frames layout reassembler.buffer.toList
  rw [consistent.unfinished.segment_eq] at silent
  rcases feeding : (empty layout).feedAll reassembler.buffer.toList with ⟨frames, fed⟩
  rw [feeding] at silent
  cases silent
  have kept := ((consistent_empty layout).of_feedAll feeding).1
  have buffered : fed.buffer.toList = reassembler.buffer.toList := buffer_of_feedAll_nil feeding
  rw [kept.eq_of_buffer consistent buffered]

theorem reached_iff_consistent : Reached layout reassembler ↔ reassembler.Consistent layout := by
  constructor
  · exact Reached.consistent
  · intro consistent
    have delivered : (empty layout).deliver (.whole reassembler.buffer.toList) =
        ([], reassembler, []) := by
      simp only [deliver, consistent.feedAll_buffer]
    exact .deliver .start delivered

theorem consistent_iff : reassembler.Consistent layout ↔ reassembler.layout = layout ∧
    (reassembler.expected = none ∧ reassembler.buffer.size < layout.sizedAt ∨
      ∃ stated, reassembler.buffer[layout.lengthOffset]? = some stated ∧
        reassembler.expected = some (layout.headerSize + stated.toNat) ∧
        layout.sizedAt ≤ reassembler.buffer.size ∧
        reassembler.buffer.size < layout.headerSize + stated.toNat) := by
  constructor
  · intro consistent
    refine ⟨consistent.layout_eq, ?_⟩
    have sized := consistent.expected_eq
    cases shown : layout.lengthOf? reassembler.buffer.toList with
    | none =>
        rw [shown] at sized
        have short := lengthOf?_eq_none_iff.mp shown
        rw [Array.length_toList] at short
        exact .inl ⟨sized, short⟩
    | some length =>
        rw [shown] at sized
        have longer := consistent.unfinished length shown
        have passed : layout.sizedAt ≤ reassembler.buffer.toList.length := by
          apply Nat.le_of_not_lt
          rw [← lengthOf?_eq_none_iff, shown]
          exact Option.some_ne_none length
        obtain ⟨stated, found, rfl⟩ := Option.map_eq_some_iff.mp shown
        rw [Array.getElem?_toList] at found
        rw [Array.length_toList] at longer passed
        exact .inr ⟨stated, found, sized, passed, longer⟩
  · rintro ⟨same, ⟨unsized, short⟩ | ⟨stated, found, sized, _, longer⟩⟩
    · have hidden : layout.lengthOf? reassembler.buffer.toList = none := by
        rwa [lengthOf?_eq_none_iff, Array.length_toList]
      refine ⟨same, unsized.trans hidden.symm, ?_⟩
      intro length shown
      rw [hidden] at shown
      cases shown
    · have shown : layout.lengthOf? reassembler.buffer.toList =
          some (layout.headerSize + stated.toNat) := by
        rw [lengthOf?, Array.getElem?_toList, found]
        rfl
      refine ⟨same, sized.trans shown.symm, ?_⟩
      intro length known
      cases shown.symm.trans known
      rwa [Array.length_toList]

/-- A chunk can be parted behind any frame that it completes: there the reassembler is as at the
beginning, and goes on from there. -/
theorem Consistent.feedAll_parted (consistent : reassembler.Consistent layout)
    (feeding : reassembler.feedAll chunk = (earlier ++ later, fed)) (some_frame : earlier ≠ []) :
    ∃ front back, chunk = front ++ back ∧ reassembler.feedAll front = (earlier, empty layout) ∧
      (empty layout).feedAll back = (later, fed) := by
  induction chunk generalizing reassembler earlier with
  | nil =>
      cases earlier with
      | nil => exact absurd rfl some_frame
      | cons frame earlier => simp [feedAll] at feeding
  | cons byte rest ih =>
      rcases feed_cases consistent byte with ⟨frame, completed, _⟩ | ⟨next, quiet, kept, _⟩
      · rcases onward : (empty layout).feedAll rest with ⟨others, last⟩
        simp only [feedAll, completed, onward, Option.toList_some, List.singleton_append] at feeding
        cases earlier with
        | nil => exact absurd rfl some_frame
        | cons first earlier =>
            obtain ⟨same, rfl⟩ := Prod.mk.inj feeding
            obtain ⟨rfl, rfl⟩ := List.cons_eq_cons.mp same
            have single : reassembler.feedAll [byte] = ([frame], empty layout) := by
              simp only [feedAll, completed, Option.toList_some, List.append_nil]
            by_cases more : earlier = []
            · subst more
              exact ⟨[byte], rest, rfl, single, onward⟩
            · obtain ⟨front, back, rfl, first, behind⟩ := ih (consistent_empty layout) onward more
              refine ⟨byte :: front, back, rfl, ?_, behind⟩
              simp only [feedAll, completed, first, Option.toList_some, List.singleton_append]
      · simp only [feedAll, quiet, Option.toList_none, List.nil_append] at feeding
        obtain ⟨front, back, rfl, first, behind⟩ := ih kept feeding some_frame
        refine ⟨byte :: front, back, rfl, ?_, behind⟩
        simp only [feedAll, quiet, first, Option.toList_none, List.nil_append]

/-- Nothing but the layout outlasts a frame or being cleared. -/
structure StartsAfresh (layout : Layout) (reassembler : Reassembler) : Prop where
  clear : reassembler.clear = empty layout
  feed : ∀ byte frame fed, reassembler.feed byte = (some frame, fed) → fed = empty layout
  next : ∀ chunk frame fed rest, reassembler.next chunk = (some frame, fed, rest) →
    fed = empty layout
  deliver : ∀ portion earlier later fed remainder,
    reassembler.deliver portion = (earlier ++ later, fed, remainder) → earlier ≠ [] →
      ∃ front back, portion.offered = front ++ back ++ remainder ∧
        reassembler.feedAll front = (earlier, empty layout) ∧
        (empty layout).feedAll back = (later, fed)

theorem Consistent.of_completed {byte : UInt8} {frame : Bytes}
    (consistent : reassembler.Consistent layout)
    (completed : reassembler.feed byte = (some frame, fed)) : fed = empty layout := by
  rcases feed_cases consistent byte with ⟨_, feeding, _⟩ | ⟨_, feeding, _⟩
  · rw [completed] at feeding
    exact congrArg Prod.snd feeding
  · rw [completed] at feeding
    cases feeding

theorem Consistent.of_taken {frame rest : Bytes} (consistent : reassembler.Consistent layout)
    (taken : reassembler.next chunk = (some frame, fed, rest)) : fed = empty layout := by
  fun_induction reassembler.next chunk with
  | case1 => cases taken
  | case2 reassembler byte chunk frame fed completed =>
      cases taken
      exact consistent.of_completed completed
  | case3 reassembler byte chunk fed quiet ih =>
      have kept := consistent.feed byte
      rw [quiet] at kept
      exact ih kept taken

theorem Consistent.startsAfresh (consistent : reassembler.Consistent layout) :
    StartsAfresh layout reassembler := by
  constructor
  · rw [Reassembler.clear, consistent.layout_eq]
  · intro byte frame fed completed
    exact consistent.of_completed completed
  · intro chunk frame fed rest taken
    exact consistent.of_taken taken
  · intro portion earlier later fed remainder delivered some_frame
    obtain ⟨consumed, offered, feeding⟩ := deliver_consumed delivered
    obtain ⟨front, back, rfl, first, behind⟩ := consistent.feedAll_parted feeding some_frame
    exact ⟨front, back, offered, first, behind⟩

/-- The states that are reached are those in which no length is known and too few bytes are buffered
to show one, or the known length is the one that the buffered length byte states and more than what is
buffered.  So the buffer never holds a longest frame, and every frame and every clearing leads back to
the start. -/
theorem reached_exactly (layout : Layout) :
    (∀ reassembler, Reached layout reassembler ↔ reassembler.layout = layout ∧
        (reassembler.expected = none ∧ reassembler.buffer.size < layout.sizedAt ∨
          ∃ stated, reassembler.buffer[layout.lengthOffset]? = some stated ∧
            reassembler.expected = some (layout.headerSize + stated.toNat) ∧
            layout.sizedAt ≤ reassembler.buffer.size ∧
            reassembler.buffer.size < layout.headerSize + stated.toNat)) ∧
      ∀ reassembler, Reached layout reassembler →
        reassembler.buffer.size ≤ layout.headerSize + 254 ∧ StartsAfresh layout reassembler := by
  constructor
  · intro reassembler
    rw [reached_iff_consistent, consistent_iff]
  · intro reassembler reached
    have consistent := reached.consistent
    have bound := consistent.unfinished.length_lt
    rw [Array.length_toList, maxFrame, maxPayload] at bound
    exact ⟨Nat.le_of_lt_succ bound, consistent.startsAfresh⟩

end SerialLink.Reassembler
