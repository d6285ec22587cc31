import Mathlib.Logic.Relation
import SerialLink.Proofs.Settings.Composing
import SerialLink.Proofs.Text.Letters

namespace SerialLink

/-! Ways to write the same settings.

A change of spelling is made in the text, before anything is cut or trimmed.  Letters are small or
capital in ASCII only; what is known of the small forms of all other characters is enough to see that
none of them can help to write a name.
-/

open Text (IsCut IsTrimmed IsSmall IsForeign Lowering trim isBlank)

namespace Text

variable {text : List Char}

theorem lower_of_ascii (lowering : Lowering) (ascii : ∀ c ∈ text, c.toNat < 128) :
    lowering.lower text = text.map Char.toLower := by
  obtain ⟨forms, small, lowered⟩ := lowering.forms text
  rw [← lowered]
  clear lowered
  induction small with
  | nil => rfl
  | cons first _ ih =>
      obtain ⟨inside, others⟩ := List.forall_mem_cons.mp ascii
      rw [IsSmall, if_pos inside] at first
      rw [List.flatten_cons, first, ih others, List.singleton_append, List.map_cons]

/-- A character outside ASCII leaves its mark in the small form. -/
theorem lower_of_isForeign (lowering : Lowering) (foreign : IsForeign text) :
    'k' ∈ lowering.lower text ∨ IsForeign (lowering.lower text) := by
  obtain ⟨c, member, outside⟩ := foreign
  obtain ⟨forms, small, lowered⟩ := lowering.forms text
  rw [← lowered]
  clear lowered
  induction small with
  | nil => contradiction
  | @cons first form _ _ here _ ih =>
      rw [List.flatten_cons]
      rcases List.mem_cons.mp member with rfl | later
      · rw [IsSmall, if_neg (Nat.not_lt_of_le outside)] at here
        split_ifs at here
        · exact .inl (List.mem_append_left _ (by rw [here]; exact List.mem_singleton_self _))
        · refine .inr (IsForeign.append_left ⟨'\u0307', ?_, by decide⟩)
          rw [here]
          exact List.mem_cons_of_mem _ (List.mem_singleton_self _)
        · obtain ⟨filled, stays⟩ := here
          exact .inr (IsForeign.append_left
            ⟨form.head filled, List.head_mem filled, stays _ (List.head_mem filled)⟩)
      · rcases ih later with kelvin | foreign
        · exact .inl (List.mem_append_right _ kelvin)
        · exact .inr foreign.append_right

end Text

namespace Field

open Text

variable {name other : List Char} {key : String} {field : Field}

theorem keys_plain (member : key ∈ field.keys) :
    'k' ∉ key.toList ∧ ∀ c ∈ key.toList, c.toNat < 128 := by
  have all : ∀ field : Field, field.keys.all (fun key =>
      !key.toList.contains 'k' && key.toList.all (·.toNat < 128)) = true := by
    intro field
    cases field <;> decide
  have plain := List.all_eq_true.mp (all field) key member
  simpa using plain

/-- In the letters of a key there is nothing outside ASCII. -/
theorem ascii_of_letters (member : key ∈ field.keys) (same : name.map Char.toLower = key.toList) :
    ∀ c ∈ name, c.toNat < 128 := by
  intro c within
  apply ascii_of_toLower
  apply (keys_plain member).2
  rw [← same]
  exact List.mem_map_of_mem within

/-- Whatever is known of small letters, the keys of a field are written in ASCII letters of either
case. -/
theorem lower_mem_keys_iff (lowering : Lowering) (name : List Char) (field : Field) :
    String.ofList (lowering.lower name) ∈ field.keys ↔
      ∃ key ∈ field.keys, name.map Char.toLower = key.toList := by
  constructor
  · intro member
    obtain ⟨noKelvin, inside⟩ := keys_plain member
    rw [String.toList_ofList] at noKelvin inside
    have ascii : ∀ c ∈ name, c.toNat < 128 := by
      intro c within
      apply Nat.lt_of_not_le
      intro outside
      rcases lower_of_isForeign lowering ⟨c, within, outside⟩ with kelvin | ⟨d, found, beyond⟩
      · exact noKelvin kelvin
      · exact absurd (inside d found) (Nat.not_lt_of_le beyond)
    refine ⟨_, member, ?_⟩
    rw [String.toList_ofList, lower_of_ascii lowering ascii]
  · intro written
    obtain ⟨key, member, same⟩ := written
    rw [lower_of_ascii lowering (ascii_of_letters member same), same, String.ofList_toList]
    exact member

theorem ofName?_eq_some_iff_letters :
    ofName? name = some field ↔ ∃ key ∈ field.keys, name.map Char.toLower = key.toList :=
  (ofName?_eq_some_iff lowering name field).trans (lower_mem_keys_iff lowering name field)

theorem ofName?_congr (same : SameLetters name other) : ofName? name = ofName? other := by
  apply Option.ext
  intro field
  rw [ofName?_eq_some_iff_letters, ofName?_eq_some_iff_letters, same]

theorem ascii_of_ofName? (found : ofName? name = some field) : ∀ c ∈ name, c.toNat < 128 := by
  obtain ⟨key, member, same⟩ := ofName?_eq_some_iff_letters.mp found
  exact ascii_of_letters member same

end Field

namespace Setting

variable {key other value otherValue part old new : List Char} {c : Char}

/-- One change of spelling in a part: the case of letters in its key, or more blanks around the part,
around its key or around its value. -/
inductive Respells : List Char → List Char → Prop where
  | letters {key other value : List Char} (absent : '=' ∉ key)
      (same : Text.SameLetters key other) :
      Respells (key ++ '=' :: value) (other ++ '=' :: value)
  | aroundPart {part before after : List Char} (leading : ∀ c ∈ before, isBlank c = true)
      (trailing : ∀ c ∈ after, isBlank c = true) : Respells part (before ++ part ++ after)
  | aroundKey {key value before after : List Char} (absent : '=' ∉ key)
      (leading : ∀ c ∈ before, isBlank c = true) (trailing : ∀ c ∈ after, isBlank c = true) :
      Respells (key ++ '=' :: value) (before ++ key ++ after ++ '=' :: value)
  | aroundValue {key value before after : List Char} (absent : '=' ∉ key)
      (leading : ∀ c ∈ before, isBlank c = true) (trailing : ∀ c ∈ after, isBlank c = true) :
      Respells (key ++ '=' :: value) (key ++ '=' :: (before ++ value ++ after))

/-- A trimmed part with an equals sign is read by what is trimmed on either side of it. -/
theorem ofPart_trim (absent : '=' ∉ key) (value : List Char) :
    ofPart (trim (key ++ '=' :: value)) =
      match Field.ofName? (trim key) with
      | none => .ok none
      | some field => (ofValue field (trim value)).map some := by
  have visible : isBlank '=' = false := by decide
  obtain ⟨front, back, trimmed, inside, named, valued⟩ :=
    Text.trim_append_separator visible key value
  have absentToo : '=' ∉ front := fun member => absent (inside _ member)
  cases known : Field.ofName? (trim key) <;>
    simp only [ofPart, trimmed, Text.splitFirst?_append absentToo, named, valued, known]

theorem not_mem_surrounded {before after text : List Char} (absent : c ∉ text)
    (visible : isBlank c = false) (leading : ∀ c ∈ before, isBlank c = true)
    (trailing : ∀ c ∈ after, isBlank c = true) : c ∉ before ++ text ++ after := by
  intro member
  rw [List.mem_append, List.mem_append] at member
  rcases member with (early | within) | late
  · rw [leading c early] at visible
    contradiction
  · exact absent within
  · rw [trailing c late] at visible
    contradiction

/-- No change of spelling divides a part. -/
theorem Respells.whole (respells : Respells old new) (whole : ';' ∉ old) : ';' ∉ new := by
  cases respells with
  | letters _ same =>
      rw [List.mem_append, not_or] at whole ⊢
      exact ⟨fun member => whole.1 ((same.mem_iff (by decide)).mpr member), whole.2⟩
  | aroundPart leading trailing => exact not_mem_surrounded whole (by decide) leading trailing
  | aroundKey _ leading trailing =>
      rw [List.mem_append, not_or] at whole ⊢
      exact ⟨not_mem_surrounded whole.1 (by decide) leading trailing, whole.2⟩
  | aroundValue _ leading trailing =>
      rw [List.mem_append, List.mem_cons, not_or, not_or] at whole ⊢
      exact ⟨whole.1, whole.2.1, not_mem_surrounded whole.2.2 (by decide) leading trailing⟩

end Setting

namespace Settings

variable {start : Settings} {piece key other value otherValue : List Char}

theorem parts_intercalate (pieces : List (List Char)) :
    Settings.parts ([';'].intercalate pieces) = pieces.flatMap Settings.parts := by
  induction pieces with
  | nil => rfl
  | cons piece rest ih =>
      cases rest with
      | nil => simp only [List.intercalate_singleton, List.flatMap_cons, List.flatMap_nil,
          List.append_nil]
      | cons next rest =>
          rw [List.intercalate_cons_cons, List.append_assoc, List.singleton_append, parts_append, ih,
            ← List.flatMap_cons]

theorem parts_of_piece (whole : ';' ∉ piece) :
    Settings.parts piece = [trim piece].filter (!·.isEmpty) := by
  have cut : IsCut ';' piece [piece] :=
    ⟨List.intercalate_singleton, List.forall_mem_singleton.mpr whole, List.cons_ne_nil _ _⟩
  rw [Settings.parts, ← Text.isCut_iff.mp cut, List.map_singleton]

theorem parts_of_option (whole : ';' ∉ key ++ '=' :: value) :
    Settings.parts (key ++ '=' :: value) = [trim (key ++ '=' :: value)] := by
  have visible : isBlank '=' = false := by decide
  obtain ⟨front, back, trimmed, _⟩ := Text.trim_append_separator visible key value
  rw [parts_of_piece whole, trimmed]
  cases front <;> rfl

/-- Two options with the same meaning of their names and the same value say the same. -/
theorem readParts_option_congr (absent : '=' ∉ key) (absentToo : '=' ∉ other)
    (whole : ';' ∉ key ++ '=' :: value) (wholeToo : ';' ∉ other ++ '=' :: otherValue)
    (named : Field.ofName? (trim key) = Field.ofName? (trim other))
    (valued : trim value = trim otherValue) (start : Settings) :
    start.readParts (Settings.parts (key ++ '=' :: value)) =
      start.readParts (Settings.parts (other ++ '=' :: otherValue)) := by
  have same : Setting.ofPart (trim (key ++ '=' :: value)) =
      Setting.ofPart (trim (other ++ '=' :: otherValue)) := by
    rw [Setting.ofPart_trim absent, Setting.ofPart_trim absentToo, named, valued]
  simp only [parts_of_option whole, parts_of_option wholeToo, readParts, same]

theorem readParts_of_respells {old new : List Char} (respells : Setting.Respells old new)
    (whole : ';' ∉ old) (start : Settings) :
    start.readParts (Settings.parts old) = start.readParts (Settings.parts new) := by
  have wholeToo := respells.whole whole
  cases respells with
  | letters absent same =>
      have absentToo := fun member => absent ((same.mem_iff (by decide)).mpr member)
      exact readParts_option_congr absent absentToo whole wholeToo
        (Field.ofName?_congr same.trim_trim) rfl start
  | aroundPart leading trailing =>
      rw [parts_of_piece whole, parts_of_piece wholeToo, Text.trim_surrounded leading trailing]
  | aroundKey absent leading trailing =>
      have absentToo := Setting.not_mem_surrounded absent (by decide) leading trailing
      exact readParts_option_congr absent absentToo whole wholeToo
        (by rw [Text.trim_surrounded leading trailing]) rfl start
  | aroundValue absent leading trailing =>
      exact readParts_option_congr absent absent whole wholeToo rfl
        (Text.trim_surrounded leading trailing _).symm start

/-- What stands between the same parts counts only through what is read from it. -/
theorem ofConnectionString_congr (front middle other back : List (List Char))
    (same : ∀ start : Settings, start.readParts (middle.flatMap Settings.parts) =
      start.readParts (other.flatMap Settings.parts)) :
    ofConnectionString (String.ofList ([';'].intercalate (front ++ (middle ++ back)))) =
      ofConnectionString (String.ofList ([';'].intercalate (front ++ (other ++ back)))) := by
  simp only [ofConnectionString, String.toList_ofList, parts_intercalate, List.flatMap_append,
    readParts_append, same]

/-- One change of spelling in a connection string: in one of its parts, or a blank part more. -/
inductive Respells (text : List Char) : List Char → Prop where
  | part {front back : List (List Char)} {old new : List Char}
      (cut : IsCut ';' text (front ++ old :: back)) (respells : Setting.Respells old new) :
      Respells text ([';'].intercalate (front ++ new :: back))
  | blankPart {front back : List (List Char)} {piece : List Char}
      (cut : IsCut ';' text (front ++ back)) (blank : ∀ c ∈ piece, isBlank c = true) :
      Respells text ([';'].intercalate (front ++ piece :: back))

theorem parts_of_blank (blank : ∀ c ∈ piece, isBlank c = true) : Settings.parts piece = [] := by
  have whole : ';' ∉ piece := by
    intro member
    have visible : isBlank ';' = false := by decide
    rw [blank _ member] at visible
    contradiction
  have trimmed : trim piece = [] := by
    have same := Text.trim_surrounded blank (List.forall_mem_nil _) []
    rwa [List.append_nil, List.append_nil] at same
  rw [parts_of_piece whole, trimmed]
  rfl

theorem ofConnectionString_of_respells {text other : List Char} (respells : Respells text other) :
    ofConnectionString (String.ofList text) = ofConnectionString (String.ofList other) := by
  cases respells with
  | @part front back old new cut respells =>
      have whole := cut.apart old (List.mem_append_right _ List.mem_cons_self)
      rw [← cut.joined]
      apply ofConnectionString_congr front [old] [new] back
      simpa only [List.flatMap_singleton] using readParts_of_respells respells whole
  | @blankPart front back piece cut blank =>
      rw [← cut.joined]
      apply ofConnectionString_congr front [] [piece] back
      simp only [List.flatMap_nil, List.flatMap_singleton, parts_of_blank blank, implies_true]

/-- A part with an equals sign and a name that nobody knows may as well not be there. -/
theorem ofConnectionString_unknown (front back : List (List Char))
    (absent : '=' ∉ key) (whole : ';' ∉ key ++ '=' :: value)
    (unknown : Field.ofName? (trim key) = none) :
    ofConnectionString (String.ofList ([';'].intercalate (front ++ (key ++ '=' :: value) :: back))) =
      ofConnectionString (String.ofList ([';'].intercalate (front ++ back))) := by
  apply ofConnectionString_congr front [key ++ '=' :: value] [] back
  intro start
  rw [List.flatMap_singleton, parts_of_option whole, readParts, Setting.ofPart_trim absent, unknown]
  rfl

theorem ofConnectionString_of_eqvGen {text other : List Char}
    (respelled : Relation.EqvGen Respells text other) :
    ofConnectionString (String.ofList text) = ofConnectionString (String.ofList other) := by
  induction respelled with
  | rel text other respells => exact ofConnectionString_of_respells respells
  | refl text => rfl
  | symm text other _ ih => exact ih.symm
  | trans text between other _ _ first second => exact first.trans second

/-- Any number of changes of spelling, made or taken back, leave what is read as it was, be it settings
or an error with its text.  A name is known only if it is one of the keys of a field in ASCII letters
of either case, and a part with any other name counts for nothing. -/
theorem ofConnectionString_spelling (lowering : Lowering) :
    (∀ text other : String, Relation.EqvGen Respells text.toList other.toList →
      ofConnectionString text = ofConnectionString other) ∧
    (∀ (name : List Char) (field : Field),
      (Field.ofName? name = some field ↔ String.ofList (lowering.lower name) ∈ field.keys) ∧
      (Field.ofName? name = some field ↔
        ∃ key ∈ field.keys, name.map Char.toLower = key.toList) ∧
      (Field.ofName? name = some field → ∀ c ∈ name, c.toNat < 128)) ∧
    ∀ (text : String) (front back : List (List Char)) (key name value : List Char),
      IsCut ';' text.toList (front ++ (key ++ '=' :: value) :: back) → '=' ∉ key →
      IsTrimmed key name →
      (∀ field : Field, ∀ known ∈ field.keys, name.map Char.toLower ≠ known.toList) →
        ofConnectionString text =
          ofConnectionString (String.ofList ([';'].intercalate (front ++ back))) := by
  refine ⟨?_, fun name field => ⟨Field.ofName?_eq_some_iff lowering name field,
    Field.ofName?_eq_some_iff_letters, Field.ascii_of_ofName?⟩, ?_⟩
  · intro text other respelled
    have same := ofConnectionString_of_eqvGen respelled
    rwa [String.ofList_toList, String.ofList_toList] at same
  · intro text front back key name value cut absent trimmed strange
    have whole := cut.apart _ (List.mem_append_right _ List.mem_cons_self)
    have unknown : Field.ofName? (trim key) = none := by
      rw [← Text.isTrimmed_iff.mp trimmed, Option.eq_none_iff_forall_ne_some]
      intro field found
      obtain ⟨known, member, same⟩ := Field.ofName?_eq_some_iff_letters.mp found
      exact strange field known member same
    have same := ofConnectionString_unknown front back absent whole unknown
    rwa [cut.joined, String.ofList_toList] at same

-- The Kelvin sign and the dotted capital I are as strange in a name as any other letter.
example : ofConnectionString ";\u3000 PORT\t= a=b;\u2003;T\u0130MEOUT=x" =
    ofConnectionString "port=a=b" := by decide

end Settings

end SerialLink
