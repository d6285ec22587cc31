import SerialLink.Proofs.Text.Cutting
import SerialLink.Proofs.Text.Numeral

namespace SerialLink.Text

/-! The two cases of ASCII letters, and what does not hang on them. -/

variable {text other : List Char} {c d : Char}

/-- Two texts are the same but for the case of ASCII letters. -/
def SameLetters (text other : List Char) : Prop := text.map Char.toLower = other.map Char.toLower

theorem ascii_of_toLower (ascii : c.toLower.toNat < 128) : c.toNat < 128 := by
  rw [toNat_toLower] at ascii
  split at ascii <;> omega

/-- A character that is no letter has no other case. -/
theorem toLower_eq_iff (plain : d.toNat < 65) : c.toLower = d ↔ c = d := by
  rw [← Char.toNat_inj, ← Char.toNat_inj, toNat_toLower]
  split <;> omega

theorem SameLetters.mem_iff (same : SameLetters text other) (plain : d.toNat < 65) :
    d ∈ text ↔ d ∈ other := by
  have asLetters (letters : List Char) : d ∈ letters ↔ d ∈ letters.map Char.toLower := by
    simp only [List.mem_map, toLower_eq_iff plain, exists_eq_right]
  rw [asLetters text, asLetters other, same]

theorem isBlank_toLower (c : Char) : isBlank c.toLower = isBlank c := by
  simp only [isBlank, Ranges.holds, blankRanges, List.any_cons, List.any_nil, toNat_toLower]
  split
  · rw [Bool.eq_iff_iff]
    simp only [Bool.or_eq_true, Bool.and_eq_true, decide_eq_true_eq, Bool.false_eq_true,
      or_false]
    omega
  · rfl

theorem trim_toLower (text : List Char) :
    trim (text.map Char.toLower) = (trim text).map Char.toLower := by
  have blanks : isBlank ∘ Char.toLower = isBlank := funext isBlank_toLower
  rw [trim, trim, List.dropWhile_map, blanks, ← List.map_reverse, List.dropWhile_map, blanks,
    List.map_reverse]

theorem SameLetters.trim_trim (same : SameLetters text other) :
    SameLetters (trim text) (trim other) := by
  rw [SameLetters, ← trim_toLower, ← trim_toLower, same]

end SerialLink.Text
