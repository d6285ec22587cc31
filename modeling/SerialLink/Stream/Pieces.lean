import SerialLink.Bytes

namespace SerialLink.Pieces

/-! Cutting bytes into pieces of given sizes.

The sizes are used in turn, from the first again after the last, until no byte is left.  A size of
zero gives an empty piece; if there is no other size, the bytes stay in one piece.
-/

/-- Uses every size once, and stops early when no byte is left. -/
def round : List Nat → Bytes → List Bytes × Bytes
  | [], bytes => ([], bytes)
  | _ :: _, [] => ([], [])
  | size :: sizes, byte :: bytes =>
      let (pieces, rest) := round sizes ((byte :: bytes).drop size)
      ((byte :: bytes).take size :: pieces, rest)

theorem round_rest_le (sizes : List Nat) (bytes : Bytes) :
    (round sizes bytes).2.length ≤ bytes.length := by
  fun_induction round sizes bytes with
  | case1 => exact Nat.le_refl _
  | case2 => exact Nat.le_refl _
  | case3 size sizes byte bytes pieces rest cut ih =>
      rw [cut] at ih
      exact Nat.le_trans ih (by simp only [List.length_drop]; omega)

theorem round_rest_lt {sizes : List Nat} {bytes : Bytes} (some_size : ∃ size ∈ sizes, size ≠ 0)
    (some_byte : bytes ≠ []) : (round sizes bytes).2.length < bytes.length := by
  fun_induction round sizes bytes with
  | case1 =>
      obtain ⟨size, absent, _⟩ := some_size
      cases absent
  | case2 => exact absurd rfl some_byte
  | case3 size sizes byte bytes pieces rest cut ih =>
      rw [cut] at ih
      cases size with
      | zero =>
          obtain ⟨other, member, nonzero⟩ := some_size
          rcases List.mem_cons.mp member with zero | later
          · exact absurd zero nonzero
          · exact ih ⟨other, later, nonzero⟩ some_byte
      | succ size =>
          have bound := round_rest_le sizes ((byte :: bytes).drop (size + 1))
          rw [cut] at bound
          simp only [List.drop_succ_cons, List.length_drop, List.length_cons] at bound ⊢
          omega

def rounds (sizes : List Nat) (some_size : ∃ size ∈ sizes, size ≠ 0) (bytes : Bytes) : List Bytes :=
  if empty : bytes = [] then []
  else
    have := round_rest_lt some_size empty
    (round sizes bytes).1 ++ rounds sizes some_size (round sizes bytes).2
termination_by bytes.length

/-- Consecutive pieces of the given sizes, used in turn. -/
def cut (bytes : Bytes) (sizes : List Nat) : List Bytes :=
  if some_size : ∃ size ∈ sizes, size ≠ 0 then rounds sizes some_size bytes else [bytes]

end SerialLink.Pieces
