import SerialLink.Proofs.Stream.Reassembly

namespace SerialLink.Reassembler

/-! Three ways to hand a stream over.

Bytes are handed over one at a time, in a chunk that is used up at once, or in a chunk off which
frames are taken on demand.  The last may be left at any point; what it has not consumed is then still
to be handed over.  None of this can be told from the frames or from the state in the end.
-/

variable {reassembler fed last : Reassembler} {chunk remainder rest stream : Bytes}
  {outcomes : List (Option Bytes)} {frames : List Bytes} {count : Nat}

/-- One call with bytes of a stream. -/
inductive Portion where
  | single (byte : UInt8)
  | whole (chunk : Bytes)
  | onDemand (chunk : Bytes) (count : Nat)
deriving DecidableEq, Repr

def Portion.offered : Portion → Bytes
  | .single byte => [byte]
  | .whole chunk => chunk
  | .onDemand chunk _ => chunk

/-- The frames of one call, and the bytes that it has not consumed. -/
def deliver (reassembler : Reassembler) : Portion → List Bytes × Reassembler × Bytes
  | .single byte =>
      let (frame, fed) := reassembler.feed byte
      (frame.toList, fed, [])
  | .whole chunk =>
      let (frames, fed) := reassembler.feedAll chunk
      (frames, fed, [])
  | .onDemand chunk count =>
      let (outcomes, fed, remainder) := reassembler.nextMany chunk count
      (outcomes.filterMap id, fed, remainder)

/-- A stream can be handed over, call by call and to its end, with these frames.  What a call has not
consumed comes before the rest of the stream again. -/
inductive Delivers : Reassembler → Bytes → List Bytes → Reassembler → Prop where
  | done (reassembler : Reassembler) : Delivers reassembler [] [] reassembler
  | call {reassembler fed last : Reassembler} {portion : Portion} {rest remainder : Bytes}
      {frames later : List Bytes}
      (delivered : reassembler.deliver portion = (frames, fed, remainder))
      (onward : Delivers fed (remainder ++ rest) later last) :
      Delivers reassembler (portion.offered ++ rest) (frames ++ later) last

theorem nextMany_nil (reassembler : Reassembler) (count : Nat) :
    (reassembler.nextMany [] count).2 = (reassembler, []) := by
  induction count with
  | zero => rfl
  | succ count ih => exact ih

/-- Asking once more is asking once and then the other times. -/
theorem nextMany_succ
    (taken : reassembler.nextMany chunk (count + 1) = (outcomes, fed, remainder)) :
    ∃ outcome middle behind others, reassembler.next chunk = (outcome, middle, behind) ∧
      middle.nextMany behind count = (others, fed, remainder) ∧ outcomes = outcome :: others := by
  rcases first : reassembler.next chunk with ⟨outcome, middle, behind⟩
  rcases later : middle.nextMany behind count with ⟨others, last, left⟩
  simp only [nextMany, first, later] at taken
  cases taken
  exact ⟨outcome, middle, behind, others, rfl, later, rfl⟩

/-- However often a frame was asked for, it is as if the bytes in front of the remainder had been
used up at once. -/
theorem nextMany_consumed (taken : reassembler.nextMany chunk count = (outcomes, fed, remainder)) :
    ∃ consumed, chunk = consumed ++ remainder ∧
      reassembler.feedAll consumed = (outcomes.filterMap id, fed) := by
  induction count generalizing reassembler chunk outcomes with
  | zero =>
      cases taken
      exact ⟨[], rfl, rfl⟩
  | succ count ih =>
      obtain ⟨outcome, middle, behind, others, first, later, rfl⟩ := nextMany_succ taken
      obtain ⟨front, rfl, feedingFront, _⟩ := next_consumed first
      obtain ⟨back, rfl, feedingBack⟩ := ih later
      refine ⟨front ++ back, (List.append_assoc _ _ _).symm, ?_⟩
      rw [feedAll_append, feedingFront, feedingBack]
      cases outcome <;> rfl

theorem nextMany_of_none (taken : reassembler.nextMany chunk count = (outcomes, fed, remainder))
    (ended : none ∈ outcomes) : remainder = [] := by
  induction count generalizing reassembler chunk outcomes with
  | zero =>
      cases taken
      cases ended
  | succ count ih =>
      obtain ⟨outcome, middle, behind, others, first, later, rfl⟩ := nextMany_succ taken
      rcases List.mem_cons.mp ended with now | afterwards
      · subst now
        obtain rfl := next_remainder_of_none first
        have nothing := nextMany_nil middle count
        rw [later] at nothing
        exact congrArg Prod.snd nothing
      · exact ih later afterwards

theorem feedAll_length_le (reassembler : Reassembler) (chunk : Bytes) :
    (reassembler.feedAll chunk).1.length ≤ chunk.length := by
  rw [feedAll_eq_feedEach, ← feedEach_length reassembler chunk]
  exact List.length_filterMap_le _ _

theorem deliver_consumed {portion : Portion}
    (delivered : reassembler.deliver portion = (frames, fed, remainder)) :
    ∃ consumed, portion.offered = consumed ++ remainder ∧
      reassembler.feedAll consumed = (frames, fed) := by
  cases portion with
  | single byte =>
      rcases feeding : reassembler.feed byte with ⟨outcome, after⟩
      simp only [deliver, feeding] at delivered
      cases delivered
      exact ⟨[byte], rfl, by simp only [feedAll, feeding, List.append_nil]⟩
  | whole chunk =>
      cases delivered
      exact ⟨chunk, (List.append_nil chunk).symm, rfl⟩
  | onDemand chunk count =>
      rcases taken : reassembler.nextMany chunk count with ⟨outcomes, after, left⟩
      simp only [deliver, taken] at delivered
      cases delivered
      exact nextMany_consumed taken

theorem Delivers.feedAll_eq (delivers : Delivers reassembler stream frames last) :
    reassembler.feedAll stream = (frames, last) := by
  induction delivers with
  | done => rfl
  | call delivered _ ih =>
      obtain ⟨consumed, offered, feeding⟩ := deliver_consumed delivered
      rw [offered, List.append_assoc, feedAll_append, feeding, ih]

/-- Whatever the calls a stream is handed over with, they bring the frames and leave the state of its
bytes fed one by one.  A chunk off which frames are taken on demand is at every point the bytes fed so
far and the remainder; there is no frame to be had only when nothing remains, and the frames still to
be had are within the stated bounds. -/
theorem delivers_iff_feedEach (reassembler : Reassembler) (stream : Bytes) :
    (∀ frames last, Delivers reassembler stream frames last ↔
        frames = (reassembler.feedEach stream).1.filterMap id ∧
          last = (reassembler.feedEach stream).2) ∧
      ∀ count outcomes fed remainder,
        reassembler.nextMany stream count = (outcomes, fed, remainder) →
        (∃ consumed, consumed ++ remainder = stream ∧
          outcomes.filterMap id = (reassembler.feedEach consumed).1.filterMap id ∧
          fed = (reassembler.feedEach consumed).2) ∧
        (none ∈ outcomes → remainder = []) ∧
        (framesWithin remainder).1 ≤ (fed.feedAll remainder).1.length ∧
        (fed.feedAll remainder).1.length ≤ (framesWithin remainder).2 ∧
        ∀ more, (fed.nextMany remainder more).1.filterMap id <+: (fed.feedAll remainder).1 := by
  refine ⟨?_, ?_⟩
  · intro frames last
    have each := reassembler.feedAll_eq_feedEach stream
    constructor
    · intro delivers
      rw [delivers.feedAll_eq] at each
      exact ⟨congrArg Prod.fst each, congrArg Prod.snd each⟩
    · intro same
      obtain ⟨rfl, rfl⟩ := same
      have delivers : Delivers reassembler ((Portion.whole stream).offered ++ []) _ _ :=
        .call rfl (.done (reassembler.feedAll stream).2)
      simpa only [Portion.offered, List.append_nil, each] using delivers
  · intro count outcomes fed remainder taken
    obtain ⟨consumed, rfl, feeding⟩ := nextMany_consumed taken
    rw [feedAll_eq_feedEach] at feeding
    refine ⟨⟨consumed, rfl, (congrArg Prod.fst feeding).symm, (congrArg Prod.snd feeding).symm⟩,
      nextMany_of_none taken, Nat.zero_le _, feedAll_length_le fed remainder, ?_⟩
    intro more
    rcases later : fed.nextMany remainder more with ⟨others, final, left⟩
    obtain ⟨front, rfl, feedingFront⟩ := nextMany_consumed later
    rw [feedAll_append, feedingFront]
    exact List.prefix_append _ _

end SerialLink.Reassembler
