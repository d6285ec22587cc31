import SerialLink.Stream.Pieces

namespace SerialLink.Pieces

/-! Pieces whose sizes come in turn.

The sizes are used round after round, but nobody can tell where a round ends: cutting is one loop over
an endless row of sizes that stops when no byte is left.  A size of zero takes the loop no further, and
still it stops, as every round brings it to a size that does.
-/

variable {size : Nat → Nat} {sizes : List Nat} {bytes rest : Bytes}
  {front pieces others : List Bytes}

/-- Pieces are cut off one after the other while bytes are left, each of the size that is next. -/
inductive Cuts : (Nat → Nat) → Bytes → List Bytes → Prop where
  | done (size : Nat → Nat) : Cuts size [] []
  | piece {size : Nat → Nat} {bytes : Bytes} {pieces : List Bytes} (more : bytes ≠ [])
      (onward : Cuts (fun turn => size (turn + 1)) (bytes.drop (size 0)) pieces) :
      Cuts size bytes (bytes.take (size 0) :: pieces)

/-- The pieces that the loop has cut off after so many sizes, and what it has left. -/
def cutOff : (Nat → Nat) → Bytes → Nat → List Bytes × Bytes
  | _, bytes, 0 => ([], bytes)
  | size, bytes, count + 1 =>
      let (pieces, rest) := cutOff (fun turn => size (turn + 1)) (bytes.drop (size 0)) count
      (bytes.take (size 0) :: pieces, rest)

/-- Every piece but the last is as long as its size, and the last is not empty and no longer. -/
structure InPieces (size : Nat → Nat) (bytes : Bytes) (pieces : List Bytes) : Prop where
  flatten : pieces.flatten = bytes
  full : ∀ turn piece, pieces[turn]? = some piece → turn + 1 < pieces.length →
    piece.length = size turn
  last : ∀ piece, pieces.getLast? = some piece →
    piece ≠ [] ∧ piece.length ≤ size (pieces.length - 1)

theorem Cuts.unique (cuts : Cuts size bytes pieces) (otherwise : Cuts size bytes others) :
    pieces = others := by
  induction cuts generalizing others with
  | done size =>
      cases otherwise with
      | done => rfl
      | piece more _ => exact absurd rfl more
  | piece more _ ih =>
      cases otherwise with
      | done => exact absurd rfl more
      | piece _ onward => rw [ih onward]

theorem Cuts.eq_nil_iff (cuts : Cuts size bytes pieces) : pieces = [] ↔ bytes = [] := by
  cases cuts with
  | done => exact iff_of_true rfl rfl
  | piece more _ => exact iff_of_false (List.cons_ne_nil _ _) more

theorem Cuts.flatten (cuts : Cuts size bytes pieces) : pieces.flatten = bytes := by
  induction cuts with
  | done => rfl
  | piece _ _ ih => rw [List.flatten_cons, ih, List.take_append_drop]

/-- The loop makes these pieces, and it stops as soon as it has made the last of them. -/
theorem Cuts.cutOff_eq (cuts : Cuts size bytes pieces) :
    cutOff size bytes pieces.length = (pieces, []) ∧
      ∀ fewer, fewer < pieces.length → (cutOff size bytes fewer).2 ≠ [] := by
  induction cuts with
  | done size => exact ⟨rfl, fun fewer less => absurd less (Nat.not_lt_zero fewer)⟩
  | piece more _ ih =>
      obtain ⟨made, before⟩ := ih
      constructor
      · simp only [List.length_cons, cutOff, made]
      · intro fewer less
        cases fewer with
        | zero => exact more
        | succ fewer => exact before fewer (Nat.lt_of_succ_lt_succ less)

theorem Cuts.inPieces (cuts : Cuts size bytes pieces) : InPieces size bytes pieces := by
  induction cuts with
  | done size => exact ⟨rfl, by simp, by simp⟩
  | @piece size bytes pieces more onward ih =>
      have nothing := onward.eq_nil_iff
      rw [List.drop_eq_nil_iff] at nothing
      constructor
      · exact (Cuts.piece more onward).flatten
      · intro turn piece found before
        cases turn with
        | zero =>
            -- There is another piece, so the bytes are more than this size.
            have longer : ¬bytes.length ≤ size 0 := by
              rw [← nothing]
              rintro rfl
              simp at before
            cases found
            rw [List.length_take_of_le (Nat.le_of_not_le longer)]
        | succ turn => exact ih.full turn piece found (Nat.lt_of_succ_lt_succ before)
      · intro piece found
        cases pieces with
        | nil =>
            have short := nothing.mp rfl
            cases found
            rw [List.take_of_length_le short]
            exact ⟨more, short⟩
        | cons next later =>
            rw [List.getLast?_cons_cons] at found
            exact ih.last piece found

theorem InPieces.tail {piece : Bytes} (inPieces : InPieces size bytes (piece :: pieces)) :
    InPieces (fun turn => size (turn + 1)) pieces.flatten pieces := by
  constructor
  · rfl
  · intro turn next found before
    exact inPieces.full (turn + 1) next found (Nat.succ_lt_succ before)
  · intro last found
    cases pieces with
    | nil => cases found
    | cons next later => exact inPieces.last last (by rw [List.getLast?_cons_cons, found])

theorem InPieces.cuts (inPieces : InPieces size bytes pieces) : Cuts size bytes pieces := by
  induction pieces generalizing size bytes with
  | nil =>
      obtain rfl := inPieces.flatten
      exact .done size
  | cons piece pieces ih =>
      have onward := ih inPieces.tail
      have joined : piece ++ pieces.flatten = bytes := inPieces.flatten
      have parted : bytes.take (size 0) = piece ∧ bytes.drop (size 0) = pieces.flatten ∧
          bytes ≠ [] := by
        cases pieces with
        | nil =>
            obtain ⟨some_byte, short⟩ := inPieces.last piece rfl
            rw [List.flatten_nil, List.append_nil] at joined
            subst joined
            exact ⟨List.take_of_length_le short, List.drop_of_length_le short, some_byte⟩
        | cons next later =>
            have exactly : piece.length = size 0 := inPieces.full 0 piece rfl (by simp)
            have some_byte := (not_congr onward.eq_nil_iff).mp (List.cons_ne_nil _ _)
            rw [← joined, ← exactly]
            exact ⟨List.take_left, List.drop_left, List.append_ne_nil_of_right_ne_nil _ some_byte⟩
      obtain ⟨taken, dropped, more⟩ := parted
      rw [← dropped] at onward
      rw [← taken]
      exact .piece more onward

theorem inPieces_iff : InPieces size bytes pieces ↔ Cuts size bytes pieces :=
  ⟨InPieces.cuts, Cuts.inPieces⟩

/-- The sizes again and again. -/
def sizeInTurn (sizes : List Nat) (turn : Nat) : Nat := sizes.getD (turn % sizes.length) 0

theorem sizeInTurn_next_round (sizes : List Nat) :
    (fun turn => sizeInTurn sizes (turn + sizes.length)) = sizeInTurn sizes := by
  funext turn
  rw [sizeInTurn, Nat.add_mod_right, sizeInTurn]

theorem sizeInTurn_of_getElem? {turn stated : Nat} (found : sizes[turn]? = some stated) :
    sizeInTurn sizes turn = stated := by
  obtain ⟨within, _⟩ := List.getElem?_eq_some_iff.mp found
  rw [sizeInTurn, Nat.mod_eq_of_lt within, List.getD_eq_getElem?_getD, found, Option.getD_some]

/-- A round cuts off what the loop does with its sizes, and stops where the loop does. -/
theorem Cuts.round (cutting : round sizes bytes = (front, rest))
    (same : ∀ turn stated, sizes[turn]? = some stated → size turn = stated)
    (onward : Cuts (fun turn => size (turn + sizes.length)) rest pieces) :
    Cuts size bytes (front ++ pieces) := by
  fun_induction Pieces.round sizes bytes generalizing size front with
  | case1 bytes =>
      cases cutting
      exact onward
  | case2 first sizes =>
      cases cutting
      cases onward with
      | done => exact .done size
      | piece more _ => exact absurd rfl more
  | case3 first sizes byte bytes front rest cut ih =>
      cases cutting
      obtain rfl := same 0 first rfl
      apply Cuts.piece (List.cons_ne_nil _ _)
      exact ih cut (fun turn stated found => same (turn + 1) stated found) onward

theorem cuts_rounds (some_size : ∃ size ∈ sizes, size ≠ 0) (bytes : Bytes) :
    Cuts (sizeInTurn sizes) bytes (rounds sizes some_size bytes) := by
  fun_induction rounds sizes some_size bytes with
  | case1 => exact .done _
  | case2 bytes some_byte shorter ih =>
      apply Cuts.round rfl fun _ _ => sizeInTurn_of_getElem?
      rwa [sizeInTurn_next_round]

/-- Nothing of the bytes is lost.  If one of the sizes is not zero, the pieces are those and no others
that are as long as their sizes say, the last of them not empty and no longer; the loop over the sizes,
from the first again after the last, makes them and then stops.  Otherwise all is one piece. -/
theorem cut_in_turn (bytes : Bytes) (sizes : List Nat) :
    (cut bytes sizes).flatten = bytes ∧
      ((∃ size ∈ sizes, size ≠ 0) →
        (∀ pieces, pieces = cut bytes sizes ↔ InPieces (sizeInTurn sizes) bytes pieces) ∧
        (cut bytes sizes = [] ↔ bytes = []) ∧
        cutOff (sizeInTurn sizes) bytes (cut bytes sizes).length = (cut bytes sizes, []) ∧
        ∀ fewer, fewer < (cut bytes sizes).length →
          (cutOff (sizeInTurn sizes) bytes fewer).2 ≠ []) ∧
      ((∀ size ∈ sizes, size = 0) → cut bytes sizes = [bytes]) := by
  by_cases some_size : ∃ size ∈ sizes, size ≠ 0
  · have cuts := cuts_rounds some_size bytes
    rw [← show cut bytes sizes = rounds sizes some_size bytes from dif_pos some_size] at cuts
    refine ⟨cuts.flatten, fun _ => ⟨?_, cuts.eq_nil_iff, cuts.cutOff_eq⟩, ?_⟩
    · intro pieces
      rw [inPieces_iff]
      constructor
      · rintro rfl
        exact cuts
      · intro others
        exact others.unique cuts
    · intro none_left
      obtain ⟨size, member, nonzero⟩ := some_size
      exact absurd (none_left size member) nonzero
  · have whole : cut bytes sizes = [bytes] := dif_neg some_size
    rw [whole]
    exact ⟨List.flatten_singleton, fun given => absurd given some_size, fun _ => rfl⟩

end SerialLink.Pieces
