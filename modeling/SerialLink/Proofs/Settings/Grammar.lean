import SerialLink.Proofs.Settings.Names
import SerialLink.Proofs.Settings.Overriding
import SerialLink.Proofs.Settings.Values
import SerialLink.Proofs.Text.Cutting

namespace SerialLink

/-! The connection strings there are, and what they say.

A string is cut here by what its text is, without any order of reading, and the settings are those of
the last option for every field.  Reading a string agrees with this; where it cannot, it complains of
the first part that nothing can be made of.
-/

open Text (IsCut IsTrimmed Lowering)

namespace Setting

variable {lowering : Lowering} {part value : List Char} {key message : String} {field : Field}
  {told : Option Setting}

/-- An option has a key and a value: what stands in front of the first equals sign and what stands
behind it, both trimmed, the key in small letters. -/
inductive IsOption (lowering : Lowering) : List Char → String → List Char → Prop where
  | intro {front back name value : List Char} (absent : '=' ∉ front)
      (named : IsTrimmed front name) (valued : IsTrimmed back value) :
      IsOption lowering (front ++ '=' :: back) (String.ofList (lowering.lower name)) value

/-- What a part tells: a setting for the field its key stands for, or nothing if there is none. -/
inductive Tells (lowering : Lowering) (part : List Char) : Option Setting → Prop where
  | known {key : String} {value : List Char} {field : Field} {setting : Setting}
      (option : IsOption lowering part key value) (member : key ∈ field.keys)
      (takes : field.Takes value setting) : Tells lowering part (some setting)
  | unknown {key : String} {value : List Char} (option : IsOption lowering part key value)
      (nobody : ∀ field : Field, key ∉ field.keys) : Tells lowering part none

/-- A part of which nothing can be made, and what is said against it. -/
inductive Spoils (lowering : Lowering) (part : List Char) : String → Prop where
  | noEquals (absent : '=' ∉ part) :
      Spoils lowering part ("invalid key-value: " ++ String.ofList part)
  | refused {key : String} {value : List Char} {field : Field}
      (option : IsOption lowering part key value) (member : key ∈ field.keys)
      (refused : ∀ setting, ¬field.Takes value setting) :
      Spoils lowering part (field.complaint value)

theorem exists_isOption (lowering : Lowering) (present : '=' ∈ part) :
    ∃ key value, IsOption lowering part key value := by
  cases found : Text.splitFirst? '=' part with
  | none => exact absurd present (Text.splitFirst?_eq_none_iff.mp found)
  | some halves =>
      obtain ⟨front, back⟩ := halves
      obtain ⟨rfl, absent⟩ := Text.splitFirst?_eq_some_iff.mp found
      exact ⟨_, _, .intro absent (Text.isTrimmed_trim front) (Text.isTrimmed_trim back)⟩

/-- Something can be made of a part, or something is to be said against it. -/
theorem tells_or_spoils (lowering : Lowering) (part : List Char) :
    (∃ told, Tells lowering part told) ∨ ∃ message, Spoils lowering part message := by
  by_cases present : '=' ∈ part
  · obtain ⟨key, value, option⟩ := exists_isOption lowering present
    by_cases known : ∃ field : Field, key ∈ field.keys
    · obtain ⟨field, member⟩ := known
      by_cases taken : ∃ setting, field.Takes value setting
      · obtain ⟨setting, takes⟩ := taken
        exact .inl ⟨some setting, .known option member takes⟩
      · exact .inr ⟨_, .refused option member (not_exists.mp taken)⟩
    · exact .inl ⟨none, .unknown option (not_exists.mp known)⟩
  · exact .inr ⟨_, .noEquals present⟩

/-- A key that stands for a field leaves the value to it. -/
theorem ofPart_of_mem_keys (option : IsOption lowering part key value)
    (member : key ∈ field.keys) : ofPart part = (ofValue field value).map some := by
  cases option with
  | intro absent named valued =>
      have found := (Field.ofName?_eq_some_iff lowering _ field).mpr member
      rw [Text.isTrimmed_iff.mp named] at found
      rw [Text.isTrimmed_iff.mp valued]
      simp only [ofPart, Text.splitFirst?_append absent, found]

theorem ofPart_of_not_mem_keys (option : IsOption lowering part key value)
    (nobody : ∀ field : Field, key ∉ field.keys) : ofPart part = .ok none := by
  cases option with
  | @intro front back name value absent named valued =>
      have found : Field.ofName? name = none := by
        rw [Option.eq_none_iff_forall_ne_some]
        intro field found
        exact nobody field ((Field.ofName?_eq_some_iff lowering _ field).mp found)
      rw [Text.isTrimmed_iff.mp named] at found
      simp only [ofPart, Text.splitFirst?_append absent, found]

theorem ofPart_of_tells (tells : Tells lowering part told) : ofPart part = .ok told := by
  cases tells with
  | known option member takes =>
      rw [ofPart_of_mem_keys option member, ofValue_eq_ok_iff.mpr takes]
      rfl
  | unknown option nobody => exact ofPart_of_not_mem_keys option nobody

theorem ofPart_of_spoils (spoils : Spoils lowering part message) :
    ∃ error, ofPart part = .error error ∧ error.message = message := by
  cases spoils with
  | noEquals absent =>
      refine ⟨.noEquals (String.ofList part), ?_, rfl⟩
      simp only [ofPart, Text.splitFirst?_eq_none_iff.mpr absent]
  | @refused _ value field option member refused =>
      rw [ofPart_of_mem_keys option member]
      cases taken : ofValue field value with
      | ok setting => exact absurd (ofValue_eq_ok_iff.mp taken) (refused setting)
      | error error => exact ⟨error, rfl, message_of_ofValue taken⟩

end Setting

namespace Settings

open Setting (Tells Spoils)

variable {lowering : Lowering} {start settings : Settings} {text : List Char}
  {parts : List (List Char)} {told : List (Option Setting)} {message : String}

/-- What is said against the first part of which nothing can be made. -/
inductive FirstSpoils (lowering : Lowering) : List (List Char) → String → Prop where
  | here {part : List Char} {parts : List (List Char)} {message : String}
      (spoils : Spoils lowering part message) : FirstSpoils lowering (part :: parts) message
  | later {part : List Char} {parts : List (List Char)} {first : Option Setting}
      {message : String} (tells : Tells lowering part first)
      (rest : FirstSpoils lowering parts message) : FirstSpoils lowering (part :: parts) message

theorem all_tell_or_firstSpoils (lowering : Lowering) (parts : List (List Char)) :
    (∃ told, List.Forall₂ (Tells lowering) parts told) ∨
      ∃ message, FirstSpoils lowering parts message := by
  induction parts with
  | nil => exact .inl ⟨[], .nil⟩
  | cons part parts ih =>
      rcases Setting.tells_or_spoils lowering part with ⟨first, tells⟩ | ⟨message, spoils⟩
      · rcases ih with ⟨told, others⟩ | ⟨message, rest⟩
        · exact .inl ⟨first :: told, .cons tells others⟩
        · exact .inr ⟨message, .later tells rest⟩
      · exact .inr ⟨message, .here spoils⟩

theorem readParts_of_tells (spoken : List.Forall₂ (Tells lowering) parts told) :
    start.readParts parts = .ok ((told.filterMap id).foldl set start) := by
  induction spoken generalizing start with
  | nil => rfl
  | @cons _ first _ _ tells _ ih =>
      have read := Setting.ofPart_of_tells tells
      cases first with
      | none => simp only [readParts, read, ih, List.filterMap_cons, id]
      | some setting => simp only [readParts, read, ih, List.filterMap_cons, id, List.foldl_cons]

theorem readParts_of_firstSpoils (start : Settings)
    (spoiled : FirstSpoils lowering parts message) :
    ∃ error, start.readParts parts = .error error ∧ error.message = message := by
  induction spoiled generalizing start with
  | here spoils =>
      obtain ⟨error, read, complains⟩ := Setting.ofPart_of_spoils spoils
      exact ⟨error, by simp only [readParts, read], complains⟩
  | @later _ _ first _ tells _ ih =>
      have read := Setting.ofPart_of_tells tells
      cases first with
      | none => simpa only [readParts, read] using ih start
      | some setting => simpa only [readParts, read] using ih (start.set setting)

theorem readParts_eq_ok_iff (lowering : Lowering) : start.readParts parts = .ok settings ↔
    ∃ told, List.Forall₂ (Tells lowering) parts told ∧
      (told.filterMap id).foldl set start = settings := by
  constructor
  · intro read
    rcases all_tell_or_firstSpoils lowering parts with ⟨told, spoken⟩ | ⟨message, spoiled⟩
    · rw [readParts_of_tells spoken] at read
      exact ⟨told, spoken, Except.ok.inj read⟩
    · obtain ⟨error, failed, _⟩ := readParts_of_firstSpoils start spoiled
      rw [failed] at read
      contradiction
  · intro described
    obtain ⟨told, spoken, rfl⟩ := described
    exact readParts_of_tells spoken

theorem readParts_error_iff (lowering : Lowering) :
    (∃ error, start.readParts parts = .error error ∧ error.message = message) ↔
      FirstSpoils lowering parts message := by
  constructor
  · intro failed
    obtain ⟨error, read, rfl⟩ := failed
    rcases all_tell_or_firstSpoils lowering parts with ⟨told, spoken⟩ | ⟨message, spoiled⟩
    · rw [readParts_of_tells spoken] at read
      contradiction
    · obtain ⟨other, failed, rfl⟩ := readParts_of_firstSpoils start spoiled
      rw [failed] at read
      cases read
      exact spoiled
  · exact readParts_of_firstSpoils start

/-- The parts of a text: what stands between semicolons, trimmed, unless nothing is left. -/
def IsParts (text : List Char) (parts : List (List Char)) : Prop :=
  ∃ pieces trimmed, IsCut ';' text pieces ∧ List.Forall₂ IsTrimmed pieces trimmed ∧
    parts = trimmed.filter (!·.isEmpty)

theorem isParts_iff : IsParts text parts ↔ parts = Settings.parts text := by
  constructor
  · intro described
    obtain ⟨pieces, trimmed, cut, each, rfl⟩ := described
    rw [Settings.parts, ← Text.isCut_iff.mp cut, ← Text.forall₂_isTrimmed_iff.mp each]
  · intro same
    exact ⟨_, _, Text.isCut_iff.mpr rfl, Text.forall₂_isTrimmed_iff.mpr rfl, same⟩

theorem exists_tells_iff : (∃ told, List.Forall₂ (Tells lowering) parts told) ↔
    ∀ part ∈ parts, ∃ told, Tells lowering part told := by
  induction parts with
  | nil => exact iff_of_true ⟨[], .nil⟩ (List.forall_mem_nil _)
  | cons part parts ih =>
      rw [List.forall_mem_cons, ← ih]
      constructor
      · intro described
        obtain ⟨_, spoken⟩ := described
        cases spoken with
        | cons first others => exact ⟨⟨_, first⟩, _, others⟩
      · intro described
        obtain ⟨⟨told, first⟩, others, rest⟩ := described
        exact ⟨told :: others, .cons first rest⟩

theorem sound_of_tells (spoken : List.Forall₂ (Tells lowering) parts told) :
    ∀ setting ∈ told.filterMap id, setting.Sound := by
  induction spoken with
  | nil => exact List.forall_mem_nil _
  | @cons part first _ _ tells _ ih =>
      cases first with
      | none => exact ih
      | some setting =>
          cases tells with
          | known _ _ takes =>
              exact List.forall_mem_cons.mpr ⟨Setting.sound_of_takes takes, ih⟩

/-- What is kept is one of the settings that were made, or what was there. -/
theorem Keeps.sound {given : List Setting} {field : Field} (keeps : Keeps start settings given field)
    (sound : ∀ setting ∈ given, setting.Sound) (before : (start.valueOf field).Sound) :
    (settings.valueOf field).Sound := by
  rcases keeps with ⟨earlier, later, rfl, _⟩ | ⟨_, kept⟩
  · exact sound _ (List.mem_append_right _ List.mem_cons_self)
  · rw [kept]
    exact before

theorem ofConnectionString_eq_ok_iff (lowering : Lowering) (text : String) (settings : Settings) :
    ofConnectionString text = .ok settings ↔ ∃ told,
      List.Forall₂ (Tells lowering) (Settings.parts text.toList) told ∧
        ∀ field, Keeps standard settings (told.filterMap id) field := by
  rw [ofConnectionString, readParts_eq_ok_iff lowering]
  exact exists_congr fun told => and_congr_right fun _ => foldl_set_iff

/-- A connection string is read exactly if every part of it tells something: a value that the field of
its key takes, or anything for a key that stands for none.  Each field holds the last value for it;
otherwise what is complained of is the first part of which nothing can be made. -/
theorem ofConnectionString_grammar (lowering : Lowering) (text : String) :
    ∃ parts, (∀ others, IsParts text.toList others ↔ others = parts) ∧
      ((∃ settings, ofConnectionString text = .ok settings) ↔
        ∀ part ∈ parts, ∃ told, Tells lowering part told) ∧
      (∀ settings, ofConnectionString text = .ok settings ↔ ∃ told,
        List.Forall₂ (Tells lowering) parts told ∧
          ∀ field, Keeps standard settings (told.filterMap id) field) ∧
      (∀ message,
        (∃ error, ofConnectionString text = .error error ∧ error.message = message) ↔
          FirstSpoils lowering parts message) ∧
      ∀ settings, ofConnectionString text = .ok settings →
        settings.port ≠ "" ∧ 0 < settings.baudRate := by
  have accepted := ofConnectionString_eq_ok_iff lowering text
  refine ⟨Settings.parts text.toList, fun others => isParts_iff, ?_, accepted,
    fun message => readParts_error_iff lowering, ?_⟩
  · rw [← exists_tells_iff]
    constructor
    · intro accepts
      obtain ⟨settings, read⟩ := accepts
      obtain ⟨told, spoken, _⟩ := (accepted settings).mp read
      exact ⟨told, spoken⟩
    · intro described
      obtain ⟨told, spoken⟩ := described
      exact ⟨_, readParts_of_tells spoken⟩
  · intro settings read
    obtain ⟨told, spoken, keeps⟩ := (accepted settings).mp read
    have sound := sound_of_tells spoken
    have port : (standard.valueOf .port).Sound := by simp [valueOf, standard, Setting.Sound]
    have rate : (standard.valueOf .baudRate).Sound := by simp [valueOf, standard, Setting.Sound]
    exact ⟨(keeps .port).sound sound port, (keeps .baudRate).sound sound rate⟩

-- Only the first equals sign divides, either radix takes a sign, and the later baud rate holds.
example : ofConnectionString " Baud Rate = +9600 ;; PORT=a=b; x=y; target=0X+1f;baud=+0300" =
    .ok ⟨"a=b", 300, 31, none⟩ := by decide

example : ofConnectionString "x=; port = ; nonsense" = .error .emptyPort := by decide

end Settings

end SerialLink
