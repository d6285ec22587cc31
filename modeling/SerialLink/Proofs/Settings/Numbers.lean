import SerialLink.Proofs.Settings.Values
import SerialLink.Proofs.Text.Words

namespace SerialLink.Setting

/-! The values that are numbers.

A value is read as a number of any size, and when that is complete it is held against a limit.  To read
it in a word as wide as the number it is for comes to the same: in what is set, in what is refused and in
what is said against it.
-/

open Text (IsNumeral ReadsExactly unsignedInWord?)

/-- A value denotes a target as a numeral, or behind a mark as a hexadecimal one. -/
def IsTarget (value : List Char) (number : Nat) : Prop :=
  IsNumeral 10 value number ∨ ∃ mark digits, (mark = 'x' ∨ mark = 'X') ∧
    value = '0' :: mark :: digits ∧ IsNumeral 16 digits number

/-- No value denotes two targets, one in each radix or two in one. -/
theorem IsTarget.unique {value : List Char} {number other : Nat} (denoted : IsTarget value number)
    (otherwise : IsTarget value other) : number = other := by
  rcases denoted with decimal | ⟨mark, digits, marked, rfl, hexadecimal⟩
  · rcases otherwise with numeral | ⟨mark, digits, marked, rfl, _⟩
    · exact decimal.unique numeral (by decide)
    · exact absurd decimal (not_isNumeral_marked marked)
  · rcases otherwise with decimal | ⟨_, _, _, same, numeral⟩
    · exact absurd decimal (not_isNumeral_marked marked)
    · cases same
      exact hexadecimal.unique numeral (by decide)

/-- Reads a target in a byte. -/
def targetInWord? (value : List Char) : Option (BitVec 8) :=
  match value with
  | '0' :: 'x' :: digits => unsignedInWord? 8 16 digits
  | '0' :: 'X' :: digits => unsignedInWord? 8 16 digits
  | digits => unsignedInWord? 8 10 digits

/-- Reads the value of a field in a word, and sets that very word.  A rate of zero is read and then
refused. -/
def ofValueInWords (field : Field) (value : List Char) : Except SettingsError Setting :=
  match field with
  | .port => ofValue .port value
  | .baudRate =>
      match (unsignedInWord? 32 10 value).filter (0 < ·) with
      | none => .error (.baudRate (String.ofList value))
      | some rate => .ok (.baudRate ⟨rate⟩)
  | .target =>
      match targetInWord? value with
      | none => .error (.target (String.ofList value))
      | some id => .ok (.target ⟨id⟩)
  | .timeout =>
      match unsignedInWord? 64 10 value with
      | none => .error (.timeout (String.ofList value))
      | some seconds =>
          .ok (.timeout (if seconds = 0 then none else some (.ofSeconds seconds.toNat)))

theorem toNat_targetInWord? (value : List Char) :
    (targetInWord? value).map BitVec.toNat = target? value := by
  have read (radix : Nat) (positive : 0 < radix) (small : radix ≤ 16) (digits : List Char) :
      (unsignedInWord? 8 radix digits).map BitVec.toNat = Text.unsigned? radix 255 digits :=
    Text.toNat_unsignedInWord? positive small (Nat.lt_of_le_of_lt small (by decide)) digits
  unfold target?
  split
  · exact read 16 (by decide) (by decide) _
  · exact read 16 (by decide) (by decide) _
  · rename_i small capital
    rw [targetInWord?]
    · exact read 10 (by decide) (by decide) value
    · exact small
    · exact capital

theorem toNat_rateInWord? (value : List Char) :
    ((unsignedInWord? 32 10 value).filter (0 < ·)).map BitVec.toNat = baudRate? value := by
  have read : (unsignedInWord? 32 10 value).map BitVec.toNat = Text.unsigned? 10 0xffffffff value :=
    Text.toNat_unsignedInWord? (by decide) (by decide) (by decide) value
  rw [baudRate?, ← read, Option.filter_map]
  rfl

theorem toNat_secondsInWord? (value : List Char) :
    (unsignedInWord? 64 10 value).map BitVec.toNat = seconds? value :=
  Text.toNat_unsignedInWord? (by decide) (by decide) (by decide) value

theorem ofValueInWords_eq (field : Field) (value : List Char) :
    ofValueInWords field value = ofValue field value := by
  cases field with
  | port => rfl
  | baudRate =>
      rw [ofValueInWords, ofValue, ← toNat_rateInWord?]
      cases (unsignedInWord? 32 10 value).filter (0 < ·) with
      | none => rfl
      | some rate => simp only [Option.map_some, UInt32.ofNat_bitVecToNat]
  | target =>
      rw [ofValueInWords, ofValue, ← toNat_targetInWord?]
      cases targetInWord? value with
      | none => rfl
      | some id => simp only [Option.map_some, UInt8.ofNat_bitVecToNat]
  | timeout =>
      rw [ofValueInWords, ofValue, ← toNat_secondsInWord?]
      cases unsignedInWord? 64 10 value with
      | none => rfl
      | some seconds =>
          have zero : seconds = 0 ↔ seconds.toNat = 0 := BitVec.toNat_inj.symm
          simp only [Option.map_some, zero]

/-- A value is read as the number it denotes if this is within the limit of its field, and as nothing if
it is beyond the limit or there is none, however many digits and zeros the value has.  Read in words of
eight, 32 and 64 bits it is no other number. -/
theorem numbers_exact (value : List Char) :
    (∀ number, target? value = some number ↔ IsTarget value number ∧ number ≤ 255) ∧
      (∀ number other, IsTarget value number → IsTarget value other → number = other) ∧
      (∀ number, baudRate? value = some number ↔
        IsNumeral 10 value number ∧ 1 ≤ number ∧ number ≤ 2 ^ 32 - 1) ∧
      (∀ number, seconds? value = some number ↔
        IsNumeral 10 value number ∧ number ≤ 2 ^ 64 - 1) ∧
      ReadsExactly 10 value ∧ ReadsExactly 16 value ∧
      ∀ field, ofValueInWords field value = ofValue field value := by
  refine ⟨fun number => target?_eq_some_iff, fun number other => IsTarget.unique,
    fun number => baudRate?_eq_some_iff, fun number => seconds?_eq_some_iff, ?_, ?_,
    fun field => ofValueInWords_eq field value⟩
  · exact Text.readsExactly (by decide) (by decide) value
  · exact Text.readsExactly (by decide) (by decide) value

-- A plus sign stands behind the mark and not in front of it, and a minus sign nowhere.
example : ["0x+5", "0X000fF", "+000255", "+0x5", "0x", "+", "-0", "0x100"].map
    (fun value => target? value.toList) =
      [some 5, some 255, some 255, none, none, none, none, none] := by decide

end SerialLink.Setting
