import SerialLink.Proofs.Settings.Spelling
import SerialLink.Proofs.Text.Writing

namespace SerialLink

/-! Settings written down, one option for every field, and read again.

An option is read to the same setting wherever it stands, and no two of them are for one field, so
that their order does not count.
-/

open Text (IsTrimmed Writes trim isBlank)

namespace Setting

variable {setting : Setting} {text : List Char}

/-- How a setting is written, if it can be.  The name of a port has neither a semicolon nor a blank at
an end; numbers are as long as one likes, but only a target may be in hexadecimal. -/
inductive IsWritten : Setting → List Char → Prop where
  | port {name : List Char} (filled : name ≠ []) (whole : ';' ∉ name)
      (first : ∀ c, name.head? = some c → isBlank c = false)
      (last : ∀ c, name.getLast? = some c → isBlank c = false) :
      IsWritten (.port (String.ofList name)) ("Port".toList ++ '=' :: name)
  | baudRate {rate : UInt32} {digits : List Char} (positive : 0 < rate)
      (numeral : Writes 10 digits rate.toNat) :
      IsWritten (.baudRate rate) ("Baud".toList ++ '=' :: digits)
  | decimalTarget {id : UInt8} {digits : List Char} (numeral : Writes 10 digits id.toNat) :
      IsWritten (.target id) ("Target".toList ++ '=' :: digits)
  | hexTarget {id : UInt8} {mark : Char} {digits : List Char} (marked : mark = 'x' ∨ mark = 'X')
      (numeral : Writes 16 digits id.toNat) :
      IsWritten (.target id) ("Target".toList ++ '=' :: '0' :: mark :: digits)
  | noTimeout {digits : List Char} (numeral : Writes 10 digits 0) :
      IsWritten (.timeout none) ("Timeout".toList ++ '=' :: digits)
  | timeout {seconds : Nat} {digits : List Char} (positive : 0 < seconds)
      (bounded : seconds < 2 ^ 64) (numeral : Writes 10 digits seconds) :
      IsWritten (.timeout (some (.ofSeconds seconds))) ("Timeout".toList ++ '=' :: digits)

end Setting

namespace Settings

open Setting (IsWritten)

variable {start settings : Settings} {setting : Setting} {order : List Setting}
  {texts : List (List Char)} {key value text : List Char} {field : Field}

theorem readParts_of_takes
    (named : '=' ∉ key ∧ ';' ∉ key ∧ Field.ofName? (trim key) = some field)
    (whole : ';' ∉ value) (trimmed : IsTrimmed value value) (takes : field.Takes value setting)
    (start : Settings) :
    start.readParts (Settings.parts (key ++ '=' :: value)) = .ok (start.set setting) := by
  obtain ⟨absent, wholeKey, found⟩ := named
  have undivided : ';' ∉ key ++ '=' :: value := by
    rw [List.mem_append, List.mem_cons, not_or, not_or]
    exact ⟨wholeKey, by decide, whole⟩
  have read : Setting.ofPart (trim (key ++ '=' :: value)) = .ok (some setting) := by
    rw [Setting.ofPart_trim absent, found, ← Text.isTrimmed_iff.mp trimmed]
    simp only [Setting.ofValue_eq_ok_iff.mpr takes, Except.map]
  rw [parts_of_option undivided, readParts, read]
  rfl

/-- The same for a value without any blank. -/
theorem readParts_of_visible
    (named : '=' ∉ key ∧ ';' ∉ key ∧ Field.ofName? (trim key) = some field)
    (visible : ∀ c ∈ value, isBlank c = false ∧ c ≠ ';') (takes : field.Takes value setting)
    (start : Settings) :
    start.readParts (Settings.parts (key ++ '=' :: value)) = .ok (start.set setting) := by
  have trimmed : IsTrimmed value value :=
    Text.isTrimmed_self (fun c first => (visible c (List.mem_of_head? first)).1)
      fun c last => (visible c (List.mem_of_getLast? last)).1
  apply readParts_of_takes named ?_ trimmed takes
  intro member
  exact (visible _ member).2 rfl

theorem readParts_of_isWritten (written : IsWritten setting text) (start : Settings) :
    start.readParts (Settings.parts text) = .ok (start.set setting) := by
  cases written with
  | port filled whole first last =>
      have trimmed := Text.isTrimmed_self first last
      exact readParts_of_takes (by decide) whole trimmed (.port filled) start
  | @baudRate rate digits positive numeral =>
      have takes : Field.Takes .baudRate digits (.baudRate (UInt32.ofNat rate.toNat)) :=
        .baudRate (numeral.isNumeral (by decide)) positive (Nat.le_sub_one_of_lt rate.toNat_lt)
      rw [UInt32.ofNat_toNat] at takes
      have visible := numeral.visible (by decide) (by decide)
      exact readParts_of_visible (by decide) visible takes start
  | @decimalTarget id digits numeral =>
      have takes : Field.Takes .target digits (.target (UInt8.ofNat id.toNat)) :=
        .decimalTarget (numeral.isNumeral (by decide)) (Nat.le_of_lt_succ id.toNat_lt)
      rw [UInt8.ofNat_toNat] at takes
      have visible := numeral.visible (by decide) (by decide)
      exact readParts_of_visible (by decide) visible takes start
  | @hexTarget id mark digits marked numeral =>
      have takes : Field.Takes .target ('0' :: mark :: digits) (.target (UInt8.ofNat id.toNat)) :=
        .hexTarget marked (numeral.isNumeral (by decide)) (Nat.le_of_lt_succ id.toNat_lt)
      rw [UInt8.ofNat_toNat] at takes
      have visible : ∀ c ∈ '0' :: mark :: digits, isBlank c = false ∧ c ≠ ';' := by
        rw [List.forall_mem_cons, List.forall_mem_cons]
        refine ⟨by decide, ?_, numeral.visible (by decide) (by decide)⟩
        rcases marked with rfl | rfl <;> decide
      exact readParts_of_visible (by decide) visible takes start
  | noTimeout numeral =>
      have takes := Field.Takes.noTimeout (numeral.isNumeral (by decide))
      have visible := numeral.visible (by decide) (by decide)
      exact readParts_of_visible (by decide) visible takes start
  | timeout positive bounded numeral =>
      have takes := Field.Takes.timeout (numeral.isNumeral (by decide)) positive
        (Nat.le_sub_one_of_lt bounded)
      have visible := numeral.visible (by decide) (by decide)
      exact readParts_of_visible (by decide) visible takes start

/-- What holds for every field, in the order of the fields. -/
def options (settings : Settings) : List Setting :=
  [Field.port, .baudRate, .target, .timeout].map settings.valueOf

theorem valueOf_mem_options (settings : Settings) (field : Field) :
    settings.valueOf field ∈ settings.options := by
  cases field <;> simp [options]

/-- One setting for each field makes the settings, in whatever order. -/
theorem foldl_set_options (ordered : order.Perm settings.options) (start : Settings) :
    order.foldl set start = settings := by
  have distinct : (order.map Setting.field).Nodup :=
    (ordered.map Setting.field).nodup_iff.mpr (by decide : [Field.port, .baudRate, .target,
      .timeout].Nodup)
  rw [foldl_set_iff]
  intro field
  obtain ⟨earlier, later, rfl⟩ :=
    List.append_of_mem (ordered.mem_iff.mpr (settings.valueOf_mem_options field))
  refine .inl ⟨earlier, later, rfl, fun other member same => ?_⟩
  rw [List.map_append, List.map_cons, field_valueOf] at distinct
  have once := (List.nodup_cons.mp (List.nodup_append.mp distinct).2.1).1
  rw [← same] at once
  exact once (List.mem_map_of_mem member)

theorem readParts_of_written (written : List.Forall₂ IsWritten order texts) (start : Settings) :
    start.readParts (texts.flatMap Settings.parts) = .ok (order.foldl set start) := by
  induction written generalizing start with
  | nil => rfl
  | @cons setting _ _ _ first _ ih =>
      rw [List.flatMap_cons, readParts_append, readParts_of_isWritten first]
      exact ih (start.set setting)

/-- Settings that are written with one option for each field, in any order, are read as they were. -/
theorem ofConnectionString_of_written (ordered : order.Perm settings.options)
    (written : List.Forall₂ IsWritten order texts) :
    ofConnectionString (String.ofList ([';'].intercalate texts)) = .ok settings := by
  rw [ofConnectionString, String.toList_ofList, parts_intercalate,
    readParts_of_written written standard, foldl_set_options ordered]

/-- Signs of equality and blanks inside a name, the largest rate, hexadecimal in either case, nothing
but zeros for no timeout, and none of the four in its usual place. -/
theorem ofConnectionString_of_written_out_of_order :
    let settings : Settings := ⟨"a= b=", 4294967295, 0xab, none⟩
    let order : List Setting :=
      [.timeout none, .target 0xab, .port "a= b=", .baudRate 4294967295]
    let texts := ["Timeout=000".toList, "Target=0X00aB".toList, "Port=a= b=".toList,
      "Baud=04294967295".toList]
    order.Perm settings.options ∧ List.Forall₂ IsWritten order texts ∧
      ofConnectionString (String.ofList ([';'].intercalate texts)) = .ok settings := by
  intro settings order texts
  have ordered : order.Perm settings.options := by decide
  have written : List.Forall₂ IsWritten order texts := by
    refine .cons ?_ (.cons ?_ (.cons ?_ (.cons ?_ .nil)))
    · exact .noTimeout ⟨2, by decide⟩
    · exact .hexTarget (.inr rfl) ⟨2, by decide⟩
    · apply IsWritten.port (by decide) (by decide)
      · intro c first
        cases first
        decide
      · intro c last
        cases last
        decide
    · exact .baudRate (by decide) ⟨1, by decide⟩
  exact ⟨ordered, written, ofConnectionString_of_written ordered written⟩

end Settings

end SerialLink
