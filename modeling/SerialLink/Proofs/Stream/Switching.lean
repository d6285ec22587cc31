import SerialLink.Proofs.History
import SerialLink.Proofs.Stream.Delivery

namespace SerialLink.Reassembler

/-! Changing the frame shape while a frame is under way.

The length byte is looked at when the buffer reaches exactly the position behind it.  A change of
shape can move that position to where the buffer already is; then the byte has been passed unseen, and
no frame is ever completed again.
-/

variable {reassembler fed : Reassembler} {chunk stream remainder : Bytes} {frames : List Bytes}

/-- Everything that can be done to a reassembler. -/
inductive Call where
  | deliver (portion : Portion)
  | clear
  | switch (layout : Layout)
deriving DecidableEq, Repr

def perform (reassembler : Reassembler) : Call → List Bytes × Reassembler
  | .deliver portion =>
      let (frames, fed, _) := reassembler.deliver portion
      (frames, fed)
  | .clear => ([], reassembler.clear)
  | .switch layout => ([], reassembler.withLayout layout)

/-- The length byte has been passed without being looked at. -/
def Stuck (reassembler : Reassembler) : Prop :=
  reassembler.expected = none ∧ reassembler.layout.sizedAt ≤ reassembler.buffer.size

/-- A known length is that of an unfinished frame of one of the two shapes. -/
def Bounded (reassembler : Reassembler) : Prop :=
  ∀ length, reassembler.expected = some length → reassembler.buffer.size < length ∧ length ≤ 259

theorem bounded_of_unsized (unsized : reassembler.expected = none) : reassembler.Bounded := by
  intro length sized
  rw [unsized] at sized
  contradiction

theorem bounded_empty (layout : Layout) : (empty layout).Bounded := bounded_of_unsized rfl

theorem not_stuck_empty (layout : Layout) : ¬(empty layout).Stuck :=
  fun stuck => Nat.not_le_of_lt layout.sizedAt_pos stuck.2

theorem not_stuck_of_sized {length : Nat} (sized : reassembler.expected = some length) :
    ¬reassembler.Stuck := by
  intro stuck
  rw [stuck.1] at sized
  contradiction

theorem frameLength_bounds (layout : Layout) (stated : UInt8) :
    layout.sizedAt < layout.frameLength stated ∧ layout.frameLength stated ≤ 259 := by
  have longest : layout.maxFrame ≤ 259 := by cases layout <;> decide
  exact ⟨layout.sizedAt_lt_frameLength stated,
    Nat.le_trans (layout.frameLength_le_maxFrame stated) longest⟩

/-- A byte completes a frame or is added to the buffer, and never leads into being stuck or out of
it. -/
theorem feed_moves (bounded : reassembler.Bounded) (byte : UInt8) :
    (reassembler.feed byte).2.Bounded ∧
      ((reassembler.feed byte).2.Stuck ↔ reassembler.Stuck) ∧
      ((∃ frame, (reassembler.feed byte).1 = some frame) ∧ ¬reassembler.Stuck ∨
        (reassembler.feed byte).1 = none ∧
          (reassembler.feed byte).2.buffer.size = reassembler.buffer.size + 1) := by
  cases known : reassembler.expected with
  | some length =>
      obtain ⟨unfinished, longest⟩ := bounded length known
      have running := not_stuck_of_sized known
      rw [feed_of_sized known]
      by_cases complete : length = reassembler.buffer.size + 1
      · rw [if_pos complete]
        exact ⟨bounded_empty _, iff_of_false (not_stuck_empty _) running, .inl ⟨⟨_, rfl⟩, running⟩⟩
      · rw [if_neg complete]
        refine ⟨?_, iff_of_false (not_stuck_of_sized known) running, .inr ⟨rfl, Array.size_push _⟩⟩
        intro other same
        obtain rfl := Option.some.inj (known.symm.trans same)
        simp only [Array.size_push]
        omega
  | none =>
      rw [feed_of_unsized known]
      refine ⟨?_, ?_, .inr ⟨rfl, Array.size_push _⟩⟩
      · intro length same
        obtain ⟨longer, longest⟩ := frameLength_bounds reassembler.layout byte
        simp only at same
        split at same
        · rename_i reached
          obtain rfl := Option.some.inj same
          simp only [Array.size_push]
          omega
        · contradiction
      · simp only [Stuck, known, Array.size_push, ite_eq_right_iff, reduceCtorEq, imp_false,
          true_and]
        omega

theorem feedAll_moves (bounded : reassembler.Bounded) (chunk : Bytes) :
    (reassembler.feedAll chunk).2.Bounded ∧
      ((reassembler.feedAll chunk).2.Stuck ↔ reassembler.Stuck) := by
  induction chunk generalizing reassembler with
  | nil => exact ⟨bounded, Iff.rfl⟩
  | cons byte rest ih =>
      obtain ⟨kept, same, _⟩ := feed_moves bounded byte
      obtain ⟨last, alike⟩ := ih kept
      exact ⟨last, alike.trans same⟩

theorem Stuck.feedAll_eq_nil (stuck : reassembler.Stuck) (chunk : Bytes) :
    (reassembler.feedAll chunk).1 = [] := by
  induction chunk generalizing reassembler with
  | nil => rfl
  | cons byte rest ih =>
      obtain ⟨_, same, ⟨_, running⟩ | ⟨silent, _⟩⟩ :=
        feed_moves (bounded_of_unsized stuck.1) byte
      · exact absurd stuck running
      · simp only [feedAll, silent, Option.toList_none, List.nil_append]
        exact ih (same.mpr stuck)

/-- So many bytes are enough for a frame of either shape. -/
theorem feedAll_ne_nil (bounded : reassembler.Bounded) (running : ¬reassembler.Stuck)
    (enough : 259 ≤ reassembler.buffer.size + stream.length) :
    (reassembler.feedAll stream).1 ≠ [] := by
  induction stream generalizing reassembler with
  | nil =>
      rw [List.length_nil, Nat.add_zero] at enough
      cases known : reassembler.expected with
      | some length =>
          obtain ⟨unfinished, longest⟩ := bounded length known
          omega
      | none =>
          have short : reassembler.layout.sizedAt ≤ 259 := by
            cases reassembler.layout <;> decide
          exact absurd ⟨known, Nat.le_trans short enough⟩ running
  | cons byte rest ih =>
      obtain ⟨kept, same, ⟨⟨frame, completed⟩, _⟩ | ⟨silent, grown⟩⟩ := feed_moves bounded byte
      · simp [feedAll, completed]
      · simp only [feedAll, silent, Option.toList_none, List.nil_append]
        apply ih kept ((not_congr same).mpr running)
        rw [grown]
        simp only [List.length_cons] at enough
        omega

theorem deliver_moves (bounded : reassembler.Bounded) {portion : Portion}
    (delivered : reassembler.deliver portion = (frames, fed, remainder)) :
    fed.Bounded ∧ (fed.Stuck ↔ reassembler.Stuck) ∧ (reassembler.Stuck → frames = []) := by
  obtain ⟨consumed, _, feeding⟩ := deliver_consumed delivered
  have moved := feedAll_moves bounded consumed
  rw [feeding] at moved
  refine ⟨moved.1, moved.2, ?_⟩
  intro stuck
  have nothing := stuck.feedAll_eq_nil consumed
  rwa [feeding] at nothing

theorem perform_bounded (bounded : reassembler.Bounded) (call : Call) :
    (reassembler.perform call).2.Bounded := by
  cases call with
  | deliver portion => exact (deliver_moves bounded rfl).1
  | clear => exact bounded_empty _
  | switch layout => exact bounded

theorem Stuck.portions (stuck : reassembler.Stuck) (portions : List Portion) :
    ∀ entry ∈ (history perform reassembler (portions.map .deliver)).1, entry.2 = [] := by
  induction portions generalizing reassembler with
  | nil => exact List.forall_mem_nil _
  | cons portion portions ih =>
      have delivered : reassembler.deliver portion = _ := rfl
      obtain ⟨_, same, silent⟩ := deliver_moves (bounded_of_unsized stuck.1) delivered
      exact List.forall_mem_cons.mpr ⟨silent stuck, ih (same.mpr stuck)⟩

/-- The change that leads into being stuck: from requests to responses, behind the second byte of a
request whose length byte would be the third. -/
structure Slips (reassembler : Reassembler) (call : Call) : Prop where
  call_eq : call = .switch .response
  layout_eq : reassembler.layout = .request
  unsized : reassembler.expected = none
  size_eq : reassembler.buffer.size = 2

theorem stuck_perform_iff (bounded : reassembler.Bounded) (running : ¬reassembler.Stuck)
    (call : Call) : (reassembler.perform call).2.Stuck ↔ reassembler.Slips call := by
  cases call with
  | deliver portion =>
      have delivered : reassembler.deliver portion = _ := rfl
      obtain ⟨_, same, _⟩ := deliver_moves bounded delivered
      exact iff_of_false ((not_congr same).mpr running) (fun slips => nomatch slips.call_eq)
  | clear =>
      exact iff_of_false (not_stuck_empty _) (fun slips => nomatch slips.call_eq)
  | switch layout =>
      constructor
      · intro stuck
        obtain ⟨unsized, passed⟩ := stuck
        have before : reassembler.buffer.size < reassembler.layout.sizedAt :=
          Nat.lt_of_not_le fun already => running ⟨unsized, already⟩
        simp only [perform, withLayout] at passed
        cases shape : reassembler.layout <;> cases layout <;>
          simp only [shape, Layout.sizedAt, Layout.lengthOffset] at before passed
        case request.response => exact ⟨rfl, shape, unsized, by omega⟩
        all_goals omega
      · intro slips
        obtain ⟨same, _, unsized, size⟩ := slips
        cases same
        exact ⟨unsized, Nat.le_of_eq size.symm⟩

theorem Slips.switch_back {call : Call} (slips : reassembler.Slips call) :
    ((reassembler.perform call).2.perform (.switch .request)).2 = reassembler := by
  obtain ⟨layout, buffer, sized⟩ := reassembler
  obtain ⟨rfl, rfl, _, _⟩ := slips
  rfl

/-- After any calls whatever: a known length is more than what is buffered and at most 259; no delivery
will ever bring a frame exactly if the reassembler is stuck, until it is cleared, and if it is not,
enough bytes always do.  It gets stuck only by the one change of shape, which can be taken back at
once. -/
theorem history_stuck (layout : Layout) (calls : List Call) :
    let reached := (history perform (empty layout) calls).2
    (∀ length, reached.expected = some length →
        reached.buffer.size < length ∧ length ≤ 259) ∧
      ((∀ portions : List Portion,
          ∀ entry ∈ (history perform reached (portions.map .deliver)).1, entry.2 = []) ↔
        reached.expected = none ∧ reached.layout.sizedAt ≤ reached.buffer.size) ∧
      (¬reached.Stuck → ∀ stream : Bytes, 259 ≤ reached.buffer.size + stream.length →
        (reached.feedAll stream).1 ≠ []) ∧
      ¬(reached.perform .clear).2.Stuck ∧
      ∀ call, ¬reached.Stuck →
        ((reached.perform call).2.Stuck ↔ reached.Slips call) ∧
          ((reached.perform call).2.Stuck →
            ((reached.perform call).2.perform (.switch .request)).2 = reached) := by
  intro reached
  have bounded : reached.Bounded := history_run
    (motive := fun _ (state : Reassembler) => state.Bounded)
    (fun _ _ call kept => perform_bounded kept call) (bounded_empty layout) calls
  refine ⟨bounded, ⟨?_, fun stuck => Stuck.portions stuck⟩,
    fun running _ => feedAll_ne_nil bounded running, not_stuck_empty _, ?_⟩
  · intro silent
    apply Classical.byContradiction
    intro running
    obtain ⟨stream, enough⟩ : ∃ stream : Bytes, stream.length = 259 :=
      ⟨List.replicate 259 0, List.length_replicate⟩
    have completed : (reached.feedAll stream).1 ≠ [] :=
      feedAll_ne_nil bounded running (by omega)
    exact completed (silent [.whole stream] _ List.mem_cons_self)
  · intro call running
    have entered := stuck_perform_iff bounded running call
    exact ⟨entered, fun stuck => (entered.mp stuck).switch_back⟩

end SerialLink.Reassembler
