namespace SerialLink.Text

/-! Cutting text at a separator. -/

/-- The parts between all separators; a text without one is a single part. -/
def splitAll (separator : Char) : List Char → List (List Char)
  | [] => [[]]
  | c :: rest =>
      if c = separator then [] :: splitAll separator rest
      else
        match splitAll separator rest with
        | [] => [[c]]
        | part :: parts => (c :: part) :: parts

/-- What stands before and behind the first separator. -/
def splitFirst? (separator : Char) : List Char → Option (List Char × List Char)
  | [] => none
  | c :: rest =>
      if c = separator then some ([], rest)
      else
        match splitFirst? separator rest with
        | none => none
        | some (front, back) => some (c :: front, back)

theorem splitAll_ne_nil (separator : Char) (text : List Char) : splitAll separator text ≠ [] := by
  cases text with
  | nil => exact List.cons_ne_nil _ _
  | cons c rest =>
      unfold splitAll
      split
      · exact List.cons_ne_nil _ _
      · split <;> exact List.cons_ne_nil _ _

/-- A separator between two texts separates their parts. -/
theorem splitAll_append (separator : Char) (front back : List Char) :
    splitAll separator (front ++ separator :: back) =
      splitAll separator front ++ splitAll separator back := by
  induction front with
  | nil => simp only [List.nil_append, splitAll, ↓reduceIte, List.cons_append]
  | cons c rest ih =>
      simp only [List.cons_append, splitAll, ih]
      split
      · rfl
      · cases parts : splitAll separator rest with
        | nil => exact absurd parts (splitAll_ne_nil separator rest)
        | cons part parts => rfl

theorem splitFirst?_eq_some {separator : Char} {text front back : List Char}
    (found : splitFirst? separator text = some (front, back)) :
    text = front ++ separator :: back ∧ separator ∉ front := by
  induction text generalizing front with
  | nil => simp only [splitFirst?, reduceCtorEq] at found
  | cons c rest ih =>
      unfold splitFirst? at found
      split at found
      · rename_i same
        cases found
        exact ⟨by rw [same, List.nil_append], List.not_mem_nil⟩
      · rename_i different
        split at found
        · contradiction
        · rename_i before behind within
          cases found
          obtain ⟨whole, absent⟩ := ih within
          refine ⟨by rw [whole, List.cons_append], ?_⟩
          intro member
          rcases List.mem_cons.mp member with same | later
          · exact different same.symm
          · exact absent later

end SerialLink.Text
