import Mathlib.Data.List.Forall2
import SerialLink.Proofs.Text.Numeral
import SerialLink.Settings.ConnectionString

namespace SerialLink

/-! Names of fields in any letters.

Which names are known does not hang on how text outside ASCII is put in small letters: no name has a
character of that kind.
-/

namespace Text

/-- What is known of the small form of a character.  Outside ASCII it stays outside, but for the Kelvin
sign and the capital I with a dot. -/
def IsSmall (c : Char) (small : List Char) : Prop :=
  if c.toNat < 128 then small = [c.toLower]
  else if c = '\u212a' then small = ['k']
  else if c = '\u0130' then small = ['i', '\u0307']
  else small ≠ [] ∧ ∀ d ∈ small, 128 ≤ d.toNat

/-- A way to put text in small letters; the form of a character may hang on its place. -/
structure Lowering where
  lower : List Char → List Char
  forms : ∀ text, ∃ forms, List.Forall₂ IsSmall text forms ∧ forms.flatten = lower text

/-- Some character is outside ASCII. -/
def IsForeign (text : List Char) : Prop := ∃ c ∈ text, 128 ≤ c.toNat

variable {c : Char} {small other front back : List Char}

theorem IsForeign.append_left (foreign : IsForeign front) : IsForeign (front ++ back) := by
  obtain ⟨c, member, outside⟩ := foreign
  exact ⟨c, List.mem_append_left back member, outside⟩

theorem IsForeign.append_right (foreign : IsForeign back) : IsForeign (front ++ back) := by
  obtain ⟨c, member, outside⟩ := foreign
  exact ⟨c, List.mem_append_right front member, outside⟩

theorem IsSmall.eq_or_isForeign (first : IsSmall c small) (second : IsSmall c other) :
    small = other ∨ IsForeign small ∧ IsForeign other := by
  unfold IsSmall at first second
  split_ifs at first second
  · exact .inl (first.trans second.symm)
  · exact .inl (first.trans second.symm)
  · exact .inl (first.trans second.symm)
  · have outside {text : List Char} (stays : text ≠ [] ∧ ∀ d ∈ text, 128 ≤ d.toNat) :
        IsForeign text :=
      ⟨text.head stays.1, List.head_mem stays.1, stays.2 _ (List.head_mem stays.1)⟩
    exact .inr ⟨outside first, outside second⟩

/-- Two ways differ only in text that both leave with characters outside ASCII. -/
theorem Lowering.eq_or_isForeign (one two : Lowering) (text : List Char) :
    one.lower text = two.lower text ∨ IsForeign (one.lower text) ∧ IsForeign (two.lower text) := by
  obtain ⟨forms, first, lowered⟩ := one.forms text
  obtain ⟨others, second, loweredToo⟩ := two.forms text
  rw [← lowered, ← loweredToo]
  clear lowered loweredToo
  induction first generalizing others with
  | nil =>
      cases second
      exact .inl rfl
  | cons small _ ih =>
      cases second with
      | cons other rest =>
          rw [List.flatten_cons, List.flatten_cons]
          rcases small.eq_or_isForeign other with rfl | ⟨foreign, foreignToo⟩
          · rcases ih _ rest with same | ⟨foreign, foreignToo⟩
            · exact .inl (by rw [same])
            · exact .inr ⟨foreign.append_right, foreignToo.append_right⟩
          · exact .inr ⟨foreign.append_left, foreignToo.append_left⟩

end Text

namespace Field

open Text

theorem isSmall_fold (c : Char) : IsSmall c (fold c) := by
  unfold IsSmall fold
  by_cases ascii : c.toNat < 128
  · have kelvin : c ≠ '\u212a' := by
      rintro rfl
      exact absurd ascii (by decide)
    have dotted : c ≠ '\u0130' := by
      rintro rfl
      exact absurd ascii (by decide)
    rw [if_pos ascii, if_neg kelvin, if_neg dotted]
  · rw [if_neg ascii]
    split
    · rfl
    · split
      · rfl
      · refine ⟨List.cons_ne_nil _ _, ?_⟩
        intro d member
        rw [List.mem_singleton.mp member, toNat_toLower]
        split <;> omega

/-- Names are put in small letters in one of the ways there are. -/
def lowering : Lowering where
  lower name := name.flatMap fold
  forms text := ⟨text.map fold, by
    rw [List.forall₂_map_right_iff, List.forall₂_same]
    exact fun c _ => isSmall_fold c, rfl⟩

/-- The names of a field, in small letters. -/
def keys : Field → List String
  | .port => ["port"]
  | .baudRate => ["baud", "baudrate", "baud rate"]
  | .target => ["target", "targetid", "target id"]
  | .timeout => ["timeout", "response timeout"]

theorem lookup_of_isForeign {text : List Char} (foreign : IsForeign text) :
    names.lookup (String.ofList text) = none := by
  have ascii : names.all (fun name => name.1.toList.all (·.toNat < 128)) = true := by decide
  simp only [List.all_eq_true, decide_eq_true_eq] at ascii
  rw [List.lookup_eq_none_iff]
  intro name member
  rw [bne_iff_ne]
  intro same
  obtain ⟨c, within, outside⟩ := foreign
  have inside := ascii name member c (by rw [← same, String.toList_ofList]; exact within)
  omega

theorem lookup_eq_some_iff (key : String) (field : Field) :
    names.lookup key = some field ↔ key ∈ field.keys := by
  constructor
  · intro found
    obtain ⟨before, after, whole, _⟩ := List.lookup_eq_some_iff.mp found
    have member : (key, field) ∈ names := by
      rw [whole]
      exact List.mem_append_right _ List.mem_cons_self
    cases field <;> simpa [names, keys] using member
  · intro member
    cases field <;> simp only [keys, List.mem_cons, List.not_mem_nil, or_false] at member
    case port => rw [member]; decide
    case timeout => rcases member with rfl | rfl <;> decide
    all_goals rcases member with rfl | rfl | rfl <;> decide

/-- The field with a name is the one among whose keys the name is, once it is in small letters. -/
theorem ofName?_eq_some_iff (lowering : Lowering) (name : List Char) (field : Field) :
    ofName? name = some field ↔ String.ofList (lowering.lower name) ∈ field.keys := by
  have same : ofName? name = names.lookup (String.ofList (lowering.lower name)) := by
    rcases Field.lowering.eq_or_isForeign lowering name with same | ⟨foreign, foreignToo⟩
    · rw [← same]
      rfl
    · rw [lookup_of_isForeign foreignToo]
      exact lookup_of_isForeign foreign
  rw [same, lookup_eq_some_iff]

end Field

end SerialLink
