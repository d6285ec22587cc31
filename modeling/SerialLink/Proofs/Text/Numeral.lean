import Mathlib.Data.List.Forall2
import Mathlib.Data.Nat.Digits.Defs
import SerialLink.Text.Numeral

namespace SerialLink.Text

/-! Which texts are numerals, and what they denote.

The number is the positional one, of any size: only when it is complete is it held against a limit.
-/

variable {radix limit front number value : Nat} {c : Char} {text : List Char}

/-- A digit in a radix of at most sixteen; letters count in either case. -/
def IsDigit (radix : Nat) (c : Char) (value : Nat) : Prop :=
  value < radix ∧ c.toLower = Nat.digitChar value

/-- One or more digits, of which the last counts least. -/
def IsMagnitude (radix : Nat) (text : List Char) (number : Nat) : Prop :=
  text ≠ [] ∧ ∃ values, List.Forall₂ (IsDigit radix) text values ∧
    Nat.ofDigits radix values.reverse = number

/-- Digits, with at most one plus sign in front. -/
def IsNumeral (radix : Nat) (text : List Char) (number : Nat) : Prop :=
  IsMagnitude radix text number ∨ ∃ digits, text = '+' :: digits ∧ IsMagnitude radix digits number

theorem toNat_toLower (c : Char) :
    c.toLower.toNat = if 65 ≤ c.toNat ∧ c.toNat ≤ 90 then c.toNat + 32 else c.toNat := by
  have capital : (c.val ≥ 'A'.val ∧ c.val ≤ 'Z'.val) ↔ 65 ≤ c.toNat ∧ c.toNat ≤ 90 := Iff.rfl
  unfold Char.toLower
  split
  · rename_i within
    obtain ⟨lower, upper⟩ := capital.mp within
    rw [if_pos ⟨lower, upper⟩]
    change (c.val + 32).toNat = c.val.toNat + 32
    rw [UInt32.toNat_add]
    change c.val.toNat ≤ 90 at upper
    have small : (32 : UInt32).toNat = 32 := rfl
    omega
  · rename_i outside
    rw [if_neg (fun within => outside (capital.mpr within))]

theorem toNat_digitChar (small : value < 16) :
    (Nat.digitChar value).toNat = if value < 10 then 48 + value else 87 + value := by
  have all : ∀ digit : Fin 16,
      (Nat.digitChar digit).toNat = if digit.val < 10 then 48 + digit.val else 87 + digit.val := by
    decide
  exact all ⟨value, small⟩

theorem isDigit_iff (small : radix ≤ 16) : IsDigit radix c value ↔ value < radix ∧
    (if 65 ≤ c.toNat ∧ c.toNat ≤ 90 then c.toNat + 32 else c.toNat) =
      if value < 10 then 48 + value else 87 + value := by
  apply and_congr_right
  intro below
  rw [← Char.toNat_inj, toNat_toLower, toNat_digitChar (Nat.lt_of_lt_of_le below small)]

theorem digit?_eq_some_iff (small : radix ≤ 16) :
    digit? radix c = some value ↔ IsDigit radix c value := by
  have bounds (first last : Char) :
      (first ≤ c ∧ c ≤ last) ↔ first.toNat ≤ c.toNat ∧ c.toNat ≤ last.toNat := Iff.rfl
  rw [isDigit_iff small, digit?, Option.filter_eq_some_iff, decide_eq_true_eq, and_comm]
  apply and_congr_right
  intro below
  simp only [bounds, Char.reduceToNat]
  split_ifs <;> simp only [Option.some.injEq, false_iff] <;> omega

theorem digits?_eq_some_iff (small : radix ≤ 16) :
    digits? radix front text = some number ↔
      ∃ values, List.Forall₂ (IsDigit radix) text values ∧
        Nat.ofDigits radix (front :: values).reverse = number := by
  induction text generalizing front with
  | nil =>
      simp only [digits?, Option.some.injEq, List.forall₂_nil_left_iff, exists_eq_left,
        List.reverse_singleton, Nat.ofDigits_singleton]
  | cons c rest ih =>
      have shift (value : Nat) (values : List Nat) :
          Nat.ofDigits radix ((front * radix + value) :: values).reverse =
            Nat.ofDigits radix (front :: value :: values).reverse := by
        simp only [List.reverse_cons, List.append_assoc, Nat.ofDigits_append,
          Nat.ofDigits_nil, List.singleton_append, Nat.ofDigits_cons]
        ring
      constructor
      · intro read
        rw [digits?] at read
        split at read
        · contradiction
        · rename_i value found
          obtain ⟨values, digits, same⟩ := ih.mp read
          exact ⟨value :: values, .cons ((digit?_eq_some_iff small).mp found) digits,
            (shift value values).symm.trans same⟩
      · intro spelled
        obtain ⟨_, digits, same⟩ := spelled
        cases digits with
        | cons digit others =>
            rw [digits?, (digit?_eq_some_iff small).mpr digit]
            exact ih.mpr ⟨_, others, (shift _ _).trans same⟩

theorem magnitude?_eq_some_iff (small : radix ≤ 16) :
    magnitude? radix text = some number ↔ IsMagnitude radix text number := by
  cases text with
  | nil => exact iff_of_false (Option.some_ne_none _ ·.symm) (fun none => none.1 rfl)
  | cons c rest =>
      rw [magnitude?, digits?_eq_some_iff small, IsMagnitude]
      simp only [List.reverse_cons, Nat.ofDigits_append_zero, ne_eq, reduceCtorEq,
        not_false_eq_true, true_and]

theorem not_isDigit_plus (small : radix ≤ 16) : ¬IsDigit radix '+' value := by
  rw [isDigit_iff small]
  intro digit
  have same := digit.2
  simp only [Char.reduceToNat] at same
  split_ifs at same <;> omega

/-- What is read as a number is a numeral, and is refused beyond the limit and nowhere below. -/
theorem unsigned?_eq_some_iff (small : radix ≤ 16) :
    unsigned? radix limit text = some number ↔ IsNumeral radix text number ∧ number ≤ limit := by
  unfold unsigned?
  rw [Option.filter_eq_some_iff, decide_eq_true_eq, magnitude?_eq_some_iff small]
  apply and_congr_left
  intro _
  split
  · rename_i digits
    constructor
    · intro behind
      exact .inr ⟨digits, rfl, behind⟩
    · intro numeral
      rcases numeral with ⟨_, _, signed, _⟩ | ⟨_, same, behind⟩
      · cases signed with
        | cons plus _ => exact absurd plus (not_isDigit_plus small)
      · cases same
        exact behind
  · rename_i unsigned
    constructor
    · exact .inl
    · intro numeral
      rcases numeral with magnitude | ⟨digits, rfl, _⟩
      · exact magnitude
      · exact absurd rfl (unsigned digits)

/-- A text denotes one number at most. -/
theorem IsNumeral.unique {other : Nat} (numeral : IsNumeral radix text number)
    (otherwise : IsNumeral radix text other) (small : radix ≤ 16) : number = other := by
  have read {denoted : Nat} (numeral : IsNumeral radix text denoted)
      (bounded : denoted ≤ max number other) :
      unsigned? radix (max number other) text = some denoted :=
    (unsigned?_eq_some_iff small).mpr ⟨numeral, bounded⟩
  have first := read numeral (Nat.le_max_left number other)
  have second := read otherwise (Nat.le_max_right number other)
  exact Option.some.inj (first.symm.trans second)

end SerialLink.Text
