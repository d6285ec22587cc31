import SerialLink.Proofs.Settings.Grammar

namespace SerialLink

/-! Connection strings one behind the other.

The second string is read from the settings that the first one leaves.  What it says does not hang on
them, and neither does its first error: they show only in the fields it does not speak of.
-/

open Text (Lowering)

namespace Setting

variable {lowering : Lowering} {part value : List Char} {key : String} {field : Field}
  {setting : Setting} {told : Option Setting}

theorem field_of_takes (takes : field.Takes value setting) : setting.field = field := by
  cases takes <;> rfl

theorem Tells.exists_setting (tells : Tells lowering part told)
    (option : IsOption lowering part key value) (member : key ∈ field.keys) :
    ∃ setting, told = some setting ∧ setting.field = field := by
  have read := ofPart_of_tells tells
  rw [ofPart_of_mem_keys option member] at read
  cases made : ofValue field value with
  | error error =>
      rw [made] at read
      contradiction
  | ok setting =>
      rw [made] at read
      cases read
      exact ⟨setting, rfl, field_of_takes (ofValue_eq_ok_iff.mp made)⟩

theorem Tells.exists_option (tells : Tells lowering part (some setting)) :
    ∃ key value, IsOption lowering part key value ∧ key ∈ setting.field.keys := by
  cases tells with
  | known option member takes =>
      rw [← field_of_takes takes] at member
      exact ⟨_, _, option, member⟩

end Setting

namespace Settings

open Setting (IsOption Tells)

variable {lowering : Lowering} {start : Settings} {parts : List (List Char)}
  {told : List (Option Setting)} {given : List Setting} {field : Field} {error : SettingsError}

theorem readParts_append (start : Settings) (front back : List (List Char)) :
    start.readParts (front ++ back) = (start.readParts front).bind (·.readParts back) := by
  induction front generalizing start with
  | nil => rfl
  | cons part rest ih =>
      rw [List.cons_append, readParts, readParts]
      cases Setting.ofPart part with
      | error error => rfl
      | ok told =>
          cases told with
          | none => exact ih start
          | some setting => exact ih (start.set setting)

/-- An error does not hang on what the settings were. -/
theorem readParts_error_anywhere (failed : start.readParts parts = .error error)
    (other : Settings) : other.readParts parts = .error error := by
  induction parts generalizing start other with
  | nil => simp only [readParts, reduceCtorEq] at failed
  | cons part rest ih =>
      rw [readParts] at failed ⊢
      cases read : Setting.ofPart part with
      | error reason =>
          rw [read] at failed
          exact failed
      | ok told =>
          rw [read] at failed
          cases told with
          | none => exact ih failed other
          | some setting => exact ih failed (other.set setting)

theorem valueOf_foldl_of_silent (silent : ∀ setting ∈ given, setting.field ≠ field) :
    (given.foldl set start).valueOf field = start.valueOf field := by
  induction given generalizing start with
  | nil => rfl
  | cons setting rest ih =>
      obtain ⟨different, others⟩ := List.forall_mem_cons.mp silent
      rw [List.foldl_cons, ih others, valueOf_set, if_neg different]

theorem valueOf_foldl_of_given (spoken : ∃ setting ∈ given, setting.field = field)
    (start other : Settings) :
    (given.foldl set start).valueOf field = (given.foldl set other).valueOf field := by
  induction given generalizing start other with
  | nil =>
      obtain ⟨_, member, _⟩ := spoken
      contradiction
  | cons setting rest ih =>
      rw [List.foldl_cons, List.foldl_cons]
      -- The start is forgotten at the last setting for the field, which need not be this one.
      by_cases again : ∃ setting ∈ rest, setting.field = field
      · exact ih again _ _
      · obtain ⟨found, member, same⟩ := spoken
        have silent : ∀ setting ∈ rest, setting.field ≠ field :=
          fun setting within equal => again ⟨setting, within, equal⟩
        rcases List.mem_cons.mp member with rfl | later
        · rw [valueOf_foldl_of_silent silent, valueOf_foldl_of_silent silent, valueOf_set,
            valueOf_set, if_pos same, if_pos same]
        · exact absurd same (silent found later)

/-- One of the options of a text is for the field. -/
def SpeaksOf (lowering : Lowering) (text : String) (field : Field) : Prop :=
  ∃ parts, IsParts text.toList parts ∧
    ∃ part ∈ parts, ∃ key value, IsOption lowering part key value ∧ key ∈ field.keys

theorem exists_option_iff (spoken : List.Forall₂ (Tells lowering) parts told) :
    (∃ part ∈ parts, ∃ key value, IsOption lowering part key value ∧ key ∈ field.keys) ↔
      ∃ setting ∈ told.filterMap id, setting.field = field := by
  induction spoken with
  | nil => simp only [List.not_mem_nil, false_and, exists_false, List.filterMap_nil]
  | @cons part first parts told tells _ ih =>
      have here : (∃ key value, IsOption lowering part key value ∧ key ∈ field.keys) ↔
          ∃ setting, first = some setting ∧ setting.field = field := by
        constructor
        · intro described
          obtain ⟨key, value, option, member⟩ := described
          exact tells.exists_setting option member
        · intro described
          obtain ⟨setting, rfl, rfl⟩ := described
          exact tells.exists_option
      rw [List.exists_mem_cons_iff, ih, here]
      cases first with
      | none => simp only [reduceCtorEq, false_and, exists_false, false_or, List.filterMap_cons, id]
      | some setting =>
          simp only [Option.some.injEq, exists_eq_left', List.filterMap_cons, id,
            List.exists_mem_cons_iff]

theorem speaksOf_iff {text : String}
    (spoken : List.Forall₂ (Tells lowering) (Settings.parts text.toList) told) :
    SpeaksOf lowering text field ↔ ∃ setting ∈ told.filterMap id, setting.field = field := by
  rw [← exists_option_iff spoken, SpeaksOf]
  simp only [isParts_iff, exists_eq_left]

theorem ofConnectionString_append (front back : String) :
    ofConnectionString (front ++ ";" ++ back) =
      (ofConnectionString front).bind (·.readParts (Settings.parts back.toList)) := by
  have joined : (front ++ ";" ++ back).toList = front.toList ++ ';' :: back.toList := by
    simp only [String.toList_append, List.append_assoc]
    rfl
  rw [ofConnectionString, joined, parts_append, readParts_append, ofConnectionString]

/-- Of two connection strings with a semicolon between them the first error counts.  Without errors
every field that the second speaks of is as the second alone has it, and every other field as the first
has it. -/
theorem ofConnectionString_composes (lowering : Lowering) (front back : String) :
    (∀ error, ofConnectionString front = .error error →
      ofConnectionString (front ++ ";" ++ back) = .error error) ∧
    (∀ earlier error, ofConnectionString front = .ok earlier →
      ofConnectionString back = .error error →
        ofConnectionString (front ++ ";" ++ back) = .error error) ∧
    ∀ earlier later, ofConnectionString front = .ok earlier → ofConnectionString back = .ok later →
      ∃ settings, ofConnectionString (front ++ ";" ++ back) = .ok settings ∧
        ∀ field,
          (SpeaksOf lowering back field → settings.valueOf field = later.valueOf field) ∧
          (¬SpeaksOf lowering back field → settings.valueOf field = earlier.valueOf field) := by
  rw [ofConnectionString_append]
  refine ⟨?_, ?_, ?_⟩
  · intro error failed
    rw [failed]
    rfl
  · intro earlier error read failed
    rw [read]
    exact readParts_error_anywhere failed earlier
  · intro earlier later read readToo
    obtain ⟨told, spoken, rfl⟩ := (readParts_eq_ok_iff lowering).mp readToo
    rw [read]
    refine ⟨_, readParts_of_tells spoken, fun field => ?_⟩
    rw [speaksOf_iff spoken]
    refine ⟨fun given => valueOf_foldl_of_given given _ _, fun silent => ?_⟩
    exact valueOf_foldl_of_silent fun setting member same => silent ⟨setting, member, same⟩

-- A timeout of no seconds is spoken of, and takes back the one in front.
example : ofConnectionString ("Timeout=5;Baud=300" ++ ";" ++ "x=1;timeout=+0") =
    .ok { standard with baudRate := 300, responseTimeout := none } := by decide

end Settings

end SerialLink
