import SerialLink.Proofs.Stream.Segmentation

namespace SerialLink

/-! Streams that were cut off on their way through a list of encoded items. -/

variable {encode : α → Bytes} {item : α} {items done later earlier : List α} {stream rest : Bytes}

/-- A stream cut off on its way through a list of encoded items: the first items are on it whole, and
then at most a strict beginning of the next. -/
def Carries (encode : α → Bytes) (done later : List α) (stream : Bytes) : Prop :=
  ∃ part, stream = (done.map encode).flatten ++ part ∧
    match later with
    | [] => part = []
    | next :: _ => ∃ missing, missing ≠ [] ∧ encode next = part ++ missing

theorem Carries.cons (carries : Carries encode done later stream) :
    Carries encode (item :: done) later (encode item ++ stream) := by
  obtain ⟨part, rfl, begun⟩ := carries
  exact ⟨part, by simp, begun⟩

theorem exists_carries (joined : stream ++ rest = (items.map encode).flatten) :
    ∃ done later, items = done ++ later ∧ Carries encode done later stream := by
  induction items generalizing stream with
  | nil =>
      have nothing : stream = [] := (List.append_eq_nil_iff.mp joined).1
      exact ⟨[], [], rfl, [], nothing, rfl⟩
  | cons item items ih =>
      rw [List.map_cons, List.flatten_cons] at joined
      have onward (behind : Bytes) (begins : stream = encode item ++ behind)
          (remaining : behind ++ rest = (items.map encode).flatten) :
          ∃ done later, item :: items = done ++ later ∧ Carries encode done later stream := by
        obtain ⟨done, later, rfl, carries⟩ := ih remaining
        rw [begins]
        exact ⟨item :: done, later, rfl, carries.cons⟩
      rcases List.append_eq_append_iff.mp joined with ⟨missing, whole, left⟩ | ⟨behind, begins, left⟩
      · cases missing with
        | nil => exact onward [] (by simpa using whole.symm) left
        | cons byte missing =>
            exact ⟨[], item :: items, rfl, stream, rfl, byte :: missing, by simp, whole⟩
      · exact onward behind begins left.symm

/-- A stream that has come to the end of the items leaves none for later. -/
theorem Carries.later_eq_nil (carries : Carries encode done later stream)
    (whole : stream = ((done ++ later).map encode).flatten) : later = [] := by
  cases later with
  | nil => rfl
  | cons next others =>
      obtain ⟨part, split, missing, some_missing, same⟩ := carries
      have lengths := congrArg List.length (split.symm.trans whole)
      have positive := List.length_pos_iff.mpr some_missing
      simp only [List.map_append, List.map_cons, List.flatten_append, List.flatten_cons,
        List.length_append, same] at lengths
      omega

/-- Items that a stream begins with are among those that it carries whole. -/
theorem Carries.prefix_of_prefix (carries : Carries encode done later stream)
    (among : earlier <+: done ++ later) (begins : (earlier.map encode).flatten <+: stream) :
    earlier <+: done := by
  rcases List.prefix_or_prefix_of_prefix among (List.prefix_append done later) with within | beyond
  · exact within
  · obtain ⟨more, rfl⟩ := beyond
    have next := (List.prefix_append_right_inj done).mp among
    obtain ⟨part, rfl, begun⟩ := carries
    cases more with
    | nil => simp
    | cons item more =>
        obtain ⟨others, rfl⟩ := next
        obtain ⟨missing, some_missing, same⟩ := begun
        have lengths := begins.length_le
        have positive := List.length_pos_iff.mpr some_missing
        simp only [List.map_append, List.map_cons, List.flatten_append, List.flatten_cons,
          List.length_append, same] at lengths
        omega

theorem Layout.IsFrame.isUnfinished_of_append {layout : Layout} {front back : Bytes}
    (whole : layout.IsFrame (front ++ back)) (some_byte : back ≠ []) :
    layout.IsUnfinished front := by
  intro length shown
  have same : some length = some (front ++ back).length :=
    (Layout.lengthOf?_append shown).symm.trans whole
  have positive := List.length_pos_iff.mpr some_byte
  rw [Option.some.inj same, List.length_append]
  omega

/-- If the items are encoded as frames, the frames on the stream are those of the first items. -/
theorem Carries.isSegmentation {layout : Layout} (carries : Carries encode done later stream)
    (whole : ∀ item, layout.IsFrame (encode item)) :
    ∃ rest, layout.IsSegmentation stream (done.map encode) rest := by
  obtain ⟨part, split, begun⟩ := carries
  refine ⟨part, split.symm, ?_, ?_⟩
  · intro frame member
    obtain ⟨item, _, rfl⟩ := List.mem_map.mp member
    exact whole item
  · cases later with
    | nil =>
        rw [show part = [] from begun]
        exact Layout.isUnfinished_nil
    | cons next others =>
        obtain ⟨missing, some_missing, same⟩ := begun
        have frame := whole next
        rw [same] at frame
        exact frame.isUnfinished_of_append some_missing

end SerialLink
