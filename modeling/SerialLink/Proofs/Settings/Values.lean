import SerialLink.Proofs.Text.Numeral
import SerialLink.Settings.ConnectionString

namespace SerialLink

/-! The values that fields take, as a grammar, and what is said against all others. -/

open Text (IsNumeral)

namespace Field

/-- The values that a field takes, and the setting each of them makes. -/
inductive Takes : Field → List Char → Setting → Prop where
  | port {value : List Char} (named : value ≠ []) :
      Takes .port value (.port (String.ofList value))
  | baudRate {value : List Char} {rate : Nat} (numeral : IsNumeral 10 value rate)
      (positive : 1 ≤ rate) (bounded : rate ≤ 2 ^ 32 - 1) :
      Takes .baudRate value (.baudRate (UInt32.ofNat rate))
  | decimalTarget {value : List Char} {id : Nat} (numeral : IsNumeral 10 value id)
      (bounded : id ≤ 255) : Takes .target value (.target (UInt8.ofNat id))
  | hexTarget {mark : Char} {digits : List Char} {id : Nat} (marked : mark = 'x' ∨ mark = 'X')
      (numeral : IsNumeral 16 digits id) (bounded : id ≤ 255) :
      Takes .target ('0' :: mark :: digits) (.target (UInt8.ofNat id))
  | noTimeout {value : List Char} (numeral : IsNumeral 10 value 0) :
      Takes .timeout value (.timeout none)
  | timeout {value : List Char} {seconds : Nat} (numeral : IsNumeral 10 value seconds)
      (positive : 1 ≤ seconds) (bounded : seconds ≤ 2 ^ 64 - 1) :
      Takes .timeout value (.timeout (some (.ofSeconds seconds)))

/-- What is said against a value that a field does not take. -/
def complaint : Field → List Char → String
  | .port, _ => "port must not be empty"
  | .baudRate, value => "invalid baud rate: " ++ String.ofList value
  | .target, value => "invalid target id: " ++ String.ofList value
  | .timeout, value => "invalid timeout: " ++ String.ofList value

end Field

namespace Setting

variable {value digits : List Char} {mark : Char} {number : Nat} {field : Field}
  {setting : Setting} {error : SettingsError}

theorem baudRate?_eq_some_iff : baudRate? value = some number ↔
    IsNumeral 10 value number ∧ 1 ≤ number ∧ number ≤ 2 ^ 32 - 1 := by
  rw [baudRate?, Option.filter_eq_some_iff, Text.unsigned?_eq_some_iff (by decide),
    decide_eq_true_eq, and_assoc, and_comm (a := number ≤ _)]
  exact Iff.rfl

theorem seconds?_eq_some_iff : seconds? value = some number ↔
    IsNumeral 10 value number ∧ number ≤ 2 ^ 64 - 1 :=
  Text.unsigned?_eq_some_iff (by decide)

/-- The mark of the other radix is no decimal digit. -/
theorem not_isNumeral_marked (marked : mark = 'x' ∨ mark = 'X') :
    ¬IsNumeral 10 ('0' :: mark :: digits) number := by
  intro numeral
  rcases numeral with ⟨_, _, spelled, _⟩ | ⟨_, same, _⟩
  · cases spelled with
    | cons _ behind =>
        cases behind with
        | cons digit _ =>
            rw [Text.isDigit_iff (by decide)] at digit
            rcases marked with rfl | rfl <;> simp only [Char.reduceToNat] at digit <;>
              split_ifs at digit <;> omega
  · exact absurd (List.cons.inj same).1 (by decide)

theorem target?_eq_some_iff : target? value = some number ↔
    (IsNumeral 10 value number ∨ ∃ mark digits, (mark = 'x' ∨ mark = 'X') ∧
      value = '0' :: mark :: digits ∧ IsNumeral 16 digits number) ∧ number ≤ 255 := by
  have hexadecimal (mark : Char) (digits : List Char) (marked : mark = 'x' ∨ mark = 'X') :
      (IsNumeral 10 ('0' :: mark :: digits) number ∨ ∃ other rest, (other = 'x' ∨ other = 'X') ∧
        '0' :: mark :: digits = '0' :: other :: rest ∧ IsNumeral 16 rest number) ↔
        IsNumeral 16 digits number := by
    constructor
    · intro either
      rcases either with decimal | ⟨_, _, _, same, numeral⟩
      · exact absurd decimal (not_isNumeral_marked marked)
      · cases same
        exact numeral
    · intro numeral
      exact .inr ⟨mark, digits, marked, rfl, numeral⟩
  unfold target?
  split
  · rw [hexadecimal 'x' _ (.inl rfl), Text.unsigned?_eq_some_iff (by decide)]
  · rw [hexadecimal 'X' _ (.inr rfl), Text.unsigned?_eq_some_iff (by decide)]
  · rename_i small capital
    rw [Text.unsigned?_eq_some_iff (by decide)]
    apply and_congr_left
    intro _
    constructor
    · exact .inl
    · intro either
      rcases either with decimal | ⟨_, digits, rfl | rfl, rfl, _⟩
      · exact decimal
      · exact absurd rfl (small digits)
      · exact absurd rfl (capital digits)

/-- A field takes exactly the values of its grammar. -/
theorem ofValue_eq_ok_iff : ofValue field value = .ok setting ↔ field.Takes value setting := by
  constructor
  · intro read
    cases field with
    | port =>
        simp only [ofValue] at read
        split at read
        · contradiction
        · rename_i filled
          cases read
          exact .port (by simpa using filled)
    | baudRate =>
        simp only [ofValue] at read
        split at read
        · contradiction
        · rename_i rate found
          cases read
          obtain ⟨numeral, positive, bounded⟩ := baudRate?_eq_some_iff.mp found
          exact .baudRate numeral positive bounded
    | target =>
        simp only [ofValue] at read
        split at read
        · contradiction
        · rename_i id found
          cases read
          obtain ⟨decimal | ⟨mark, digits, marked, rfl, numeral⟩, bounded⟩ :=
            target?_eq_some_iff.mp found
          · exact .decimalTarget decimal bounded
          · exact .hexTarget marked numeral bounded
    | timeout =>
        simp only [ofValue] at read
        split at read
        · contradiction
        · rename_i seconds found
          cases read
          obtain ⟨numeral, bounded⟩ := seconds?_eq_some_iff.mp found
          by_cases none : seconds = 0
          · subst none
            exact .noTimeout numeral
          · rw [if_neg none]
            exact .timeout numeral (Nat.one_le_iff_ne_zero.mpr none) bounded
  · intro takes
    cases takes with
    | port named => simp [ofValue, named]
    | baudRate numeral positive bounded =>
        simp only [ofValue, baudRate?_eq_some_iff.mpr ⟨numeral, positive, bounded⟩]
    | decimalTarget numeral bounded =>
        simp only [ofValue, target?_eq_some_iff.mpr ⟨.inl numeral, bounded⟩]
    | hexTarget marked numeral bounded =>
        simp only [ofValue,
          target?_eq_some_iff.mpr ⟨.inr ⟨_, _, marked, rfl, numeral⟩, bounded⟩]
    | noTimeout numeral =>
        simp only [ofValue, seconds?_eq_some_iff.mpr ⟨numeral, Nat.zero_le _⟩, if_true]
    | timeout numeral positive bounded =>
        simp only [ofValue, seconds?_eq_some_iff.mpr ⟨numeral, bounded⟩,
          if_neg (Nat.one_le_iff_ne_zero.mp positive)]

theorem message_of_ofValue (refused : ofValue field value = .error error) :
    error.message = field.complaint value := by
  cases field <;> simp only [ofValue] at refused <;> split at refused <;> cases refused <;> rfl

/-- A port has a name, and a baud rate is positive. -/
def Sound : Setting → Prop
  | .port name => name ≠ ""
  | .baudRate rate => 0 < rate
  | _ => True

theorem sound_of_takes (takes : field.Takes value setting) : setting.Sound := by
  cases takes with
  | port named => simpa [Sound] using named
  | baudRate _ positive bounded =>
      rw [Sound, UInt32.lt_iff_toNat_lt, UInt32.toNat_ofNat', Nat.mod_eq_of_lt (by omega)]
      exact positive
  | decimalTarget | hexTarget | noTimeout | timeout => exact trivial

end Setting

end SerialLink
