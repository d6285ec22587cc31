import SerialLink.Proofs.Text.Letters

namespace SerialLink.Text

/-! Numbers as they are written.

Such a text is a numeral for the number, and but for a sign in front there are no other numerals.
-/

variable {radix number : Nat} {text : List Char} {values : List Nat}

/-- A number without a sign, with any number of zeros in front and letters in either case. -/
def Writes (radix : Nat) (text : List Char) (number : Nat) : Prop :=
  ∃ zeros, text.map Char.toLower = List.replicate zeros '0' ++ Nat.toDigits radix number

/-- The digits that are written are the digits that count, the last one least. -/
theorem exists_digits (radixed : 1 < radix) (number : Nat) : ∃ values : List Nat,
    Nat.toDigits radix number = values.map Nat.digitChar ∧ (∀ value ∈ values, value < radix) ∧
      Nat.ofDigits radix values.reverse = number := by
  induction number using Nat.strongRecOn with
  | _ number ih =>
      rw [Nat.toDigits_eq_if radixed]
      split
      · rename_i small
        exact ⟨[number], rfl, List.forall_mem_singleton.mpr small, Nat.ofDigits_singleton⟩
      · rename_i large
        have shorter : number / radix < number := Nat.div_lt_self (by omega) radixed
        obtain ⟨values, written, bounded, same⟩ := ih _ shorter
        refine ⟨values ++ [number % radix], ?_, ?_, ?_⟩
        · rw [written, List.map_append, List.map_singleton]
        · exact List.forall_mem_append.mpr
            ⟨bounded, List.forall_mem_singleton.mpr (Nat.mod_lt _ (by omega))⟩
        · rw [List.reverse_append, List.reverse_singleton, List.singleton_append, Nat.ofDigits_cons,
            same, Nat.mod_add_div]

theorem forall₂_isDigit_iff : List.Forall₂ (IsDigit radix) text values ↔
    text.map Char.toLower = values.map Nat.digitChar ∧ ∀ value ∈ values, value < radix := by
  induction text generalizing values with
  | nil => cases values <;> simp
  | cons c rest ih =>
      cases values with
      | nil => simp
      | cons value values =>
          rw [List.forall₂_cons, ih, List.map_cons, List.map_cons, List.cons_eq_cons,
            List.forall_mem_cons]
          constructor
          · rintro ⟨⟨within, first⟩, others, small⟩
            exact ⟨⟨first, others⟩, within, small⟩
          · rintro ⟨⟨first, others⟩, within, small⟩
            exact ⟨⟨within, first⟩, others, small⟩

/-- Zeros in front add nothing. -/
theorem Writes.isMagnitude (written : Writes radix text number) (radixed : 1 < radix) :
    IsMagnitude radix text number := by
  obtain ⟨zeros, same⟩ := written
  obtain ⟨values, digits, bounded, denoted⟩ := exists_digits radixed number
  have spelled : text.map Char.toLower = (List.replicate zeros 0 ++ values).map Nat.digitChar := by
    rw [same, digits, List.map_append, List.map_replicate]
    rfl
  refine ⟨?_, _, forall₂_isDigit_iff.mpr ⟨spelled, ?_⟩, ?_⟩
  · rintro rfl
    have none := (List.append_eq_nil_iff.mp same.symm).2
    exact Nat.toDigits_ne_nil none
  · refine List.forall_mem_append.mpr ⟨fun value member => ?_, bounded⟩
    rw [List.eq_of_mem_replicate member]
    omega
  · rw [List.reverse_append, List.reverse_replicate, Nat.ofDigits_append_replicate_zero, denoted]

/-- Any digits, the least one first, are those that are written for their number, behind zeros. -/
theorem exists_zeros (radixed : 1 < radix) (some_digit : values ≠ [])
    (bounded : ∀ value ∈ values, value < radix) :
    ∃ zeros, values.reverse.map Nat.digitChar =
      List.replicate zeros '0' ++ Nat.toDigits radix (Nat.ofDigits radix values) := by
  induction values with
  | nil => exact absurd rfl some_digit
  | cons last others ih =>
      obtain ⟨least, small⟩ := List.forall_mem_cons.mp bounded
      rw [List.reverse_cons, List.map_append, List.map_singleton, Nat.ofDigits_cons]
      by_cases single : others = []
      · subst single
        refine ⟨0, ?_⟩
        rw [Nat.ofDigits_nil, Nat.mul_zero, Nat.add_zero, Nat.toDigits_of_lt_base least]
        rfl
      · obtain ⟨zeros, same⟩ := ih single small
        by_cases nothing : Nat.ofDigits radix others = 0
        · -- Zero is written with a digit, and in front of another one it is a zero more.
          refine ⟨zeros + 1, ?_⟩
          rw [same, nothing, Nat.mul_zero, Nat.add_zero last, Nat.toDigits_zero,
            ← List.replicate_succ', Nat.toDigits_of_lt_base least]
        · refine ⟨zeros, ?_⟩
          rw [same, List.append_assoc, ← Nat.toDigits_of_lt_base least,
            Nat.toDigits_append_toDigits radixed (Nat.pos_of_ne_zero nothing) least, Nat.add_comm]

theorem isMagnitude_iff_writes (radixed : 1 < radix) :
    IsMagnitude radix text number ↔ Writes radix text number := by
  constructor
  · intro magnitude
    obtain ⟨some_digit, values, digits, rfl⟩ := magnitude
    obtain ⟨spelled, bounded⟩ := forall₂_isDigit_iff.mp digits
    have some_value : values.reverse ≠ [] := by
      rw [List.reverse_ne_nil_iff]
      rintro rfl
      exact some_digit (List.map_eq_nil_iff.mp spelled)
    obtain ⟨zeros, same⟩ := exists_zeros radixed some_value fun value member =>
      bounded value (List.mem_reverse.mp member)
    rw [List.reverse_reverse] at same
    exact ⟨zeros, spelled.trans same⟩
  · intro written
    exact written.isMagnitude radixed

theorem isNumeral_iff_writes (radixed : 1 < radix) : IsNumeral radix text number ↔
    ∃ sign digits, text = sign ++ digits ∧ (sign = [] ∨ sign = ['+']) ∧
      Writes radix digits number := by
  constructor
  · intro numeral
    rcases numeral with magnitude | ⟨digits, same, magnitude⟩
    · exact ⟨[], text, rfl, .inl rfl, (isMagnitude_iff_writes radixed).mp magnitude⟩
    · exact ⟨['+'], digits, same, .inr rfl, (isMagnitude_iff_writes radixed).mp magnitude⟩
  · intro described
    obtain ⟨sign, digits, rfl, rfl | rfl, written⟩ := described
    · exact .inl (written.isMagnitude radixed)
    · exact .inr ⟨digits, rfl, written.isMagnitude radixed⟩

theorem Writes.isNumeral (written : Writes radix text number) (radixed : 1 < radix) :
    IsNumeral radix text number :=
  .inl (written.isMagnitude radixed)

theorem IsDigit.visible {c : Char} {value : Nat} (digit : IsDigit radix c value)
    (small : radix ≤ 16) : isBlank c = false ∧ c ≠ ';' := by
  have digits : ∀ value : Fin 16,
      isBlank (Nat.digitChar value) = false ∧ Nat.digitChar value ≠ ';' := by decide
  obtain ⟨below, lower⟩ := digit
  obtain ⟨visible, plain⟩ := digits ⟨value, Nat.lt_of_lt_of_le below small⟩
  rw [← lower, isBlank_toLower] at visible
  rw [← lower, ne_eq, toLower_eq_iff (by decide)] at plain
  exact ⟨visible, plain⟩

/-- In a number there is no blank and nothing that divides. -/
theorem Writes.visible (written : Writes radix text number) (radixed : 1 < radix)
    (small : radix ≤ 16) : ∀ c ∈ text, isBlank c = false ∧ c ≠ ';' := by
  obtain ⟨_, values, spelled, _⟩ := written.isMagnitude radixed
  have each := spelled.imp fun c value digit => And.intro (digit.visible small) digit
  exact ((List.forall₂_and_left text values).mp each).1

end SerialLink.Text
