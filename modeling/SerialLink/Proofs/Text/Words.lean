import SerialLink.Proofs.Text.Writing

namespace SerialLink.Text

/-! Numerals read in words of a fixed width.

The digits are taken into a word one after the other.  A text of at most two digits for each byte of
the word is too short to denote more than it holds, and is read without a look at overflow.  In any
other text the first product or sum that the word does not hold ends the reading.
-/

variable {width radix front number value : Nat} {word next : BitVec width} {text : List Char}

/-- The word with one more digit behind those it holds; what does not fit is lost. -/
def takeIn (radix : Nat) (word : BitVec width) (value : Nat) : BitVec width :=
  word * BitVec.ofNat width radix + BitVec.ofNat width value

/-- The same, unless the product or the sum does not fit. -/
def takeIn? (radix : Nat) (word : BitVec width) (value : Nat) : Option (BitVec width) :=
  if word.umulOverflow (.ofNat width radix) then none
  else if (word * BitVec.ofNat width radix).uaddOverflow (.ofNat width value) then none
  else some (takeIn radix word value)

/-- Takes in digits, each of them as `advance` does, behind those that a word holds. -/
def digitsInWord? (advance : BitVec width → Nat → Option (BitVec width)) (radix : Nat)
    (word : BitVec width) : List Char → Option (BitVec width)
  | [] => some word
  | c :: rest =>
      match digit? radix c with
      | none => none
      | some value =>
          match advance word value with
          | none => none
          | some next => digitsInWord? advance radix next rest

/-- Reads one or more digits and nothing else. -/
def magnitudeInWord? (width radix : Nat) (text : List Char) : Option (BitVec width) :=
  if text = [] then none
  else if radix ≤ 16 ∧ text.length ≤ 2 * (width / 8) then
    digitsInWord? (fun word value => some (takeIn radix word value)) radix 0 text
  else digitsInWord? (takeIn? radix) radix 0 text

/-- Reads a numeral. -/
def unsignedInWord? (width radix : Nat) (text : List Char) : Option (BitVec width) :=
  let magnitude :=
    match text with
    | '+' :: rest => rest
    | other => other
  magnitudeInWord? width radix magnitude

/-- A digit is taken in exactly if the word holds the number with it, and then the word is that number. -/
theorem takeIn?_eq_some_iff (fits : radix < 2 ^ width) (digit : value < radix) :
    takeIn? radix word value = some next ↔ word.toNat * radix + value = next.toNat := by
  have sameRadix : (BitVec.ofNat width radix).toNat = radix := by
    rw [BitVec.toNat_ofNat, Nat.mod_eq_of_lt fits]
  have sameValue : (BitVec.ofNat width value).toNat = value := by
    rw [BitVec.toNat_ofNat, Nat.mod_eq_of_lt (Nat.lt_trans digit fits)]
  have bounded := next.isLt
  unfold takeIn?
  split
  · rename_i beyond
    rw [BitVec.umulOverflow, decide_eq_true_eq, sameRadix] at beyond
    exact iff_of_false (Option.some_ne_none _ ·.symm) (by omega)
  · rename_i within
    have product := BitVec.toNat_mul_of_not_umulOverflow within
    rw [sameRadix] at product
    split
    · rename_i beyond
      rw [BitVec.uaddOverflow, decide_eq_true_eq, product, sameValue] at beyond
      exact iff_of_false (Option.some_ne_none _ ·.symm) (by omega)
    · rename_i within
      have sum := BitVec.toNat_add_of_not_uaddOverflow within
      rw [product, sameValue] at sum
      rw [Option.some.injEq, ← BitVec.toNat_inj, takeIn, sum]

theorem takeIn_of_takeIn? (taken : takeIn? radix word value = some next) :
    takeIn radix word value = next := by
  unfold takeIn? at taken
  split at taken
  · contradiction
  · split at taken
    · contradiction
    · exact Option.some.inj taken

/-- Digits behind a number make no smaller one. -/
theorem le_of_digits? (positive : 0 < radix) (read : digits? radix front text = some number) :
    front ≤ number := by
  induction text generalizing front with
  | nil => exact Nat.le_of_eq (Option.some.inj read)
  | cons c rest ih =>
      rw [digits?] at read
      split at read
      · contradiction
      · rename_i value _
        calc front ≤ front * radix := Nat.le_mul_of_pos_right front positive
          _ ≤ front * radix + value := Nat.le_add_right _ value
          _ ≤ number := ih read

/-- With every step looked at, the word is the number that the digits denote.  A digit that is not taken
in has made a number that no digits behind it make small enough again. -/
theorem digitsInWord?_eq_some_iff (positive : 0 < radix) (small : radix ≤ 16)
    (fits : radix < 2 ^ width) : digitsInWord? (takeIn? radix) radix word text = some next ↔
      digits? radix word.toNat text = some next.toNat := by
  induction text generalizing word with
  | nil => rw [digitsInWord?, digits?, Option.some.injEq, Option.some.injEq, BitVec.toNat_inj]
  | cons c rest ih =>
      cases found : digit? radix c with
      | none => simp only [digitsInWord?, digits?, found, reduceCtorEq]
      | some value =>
          have digit : value < radix := ((digit?_eq_some_iff small).mp found).1
          cases taken : takeIn? radix word value with
          | some behind =>
              have same := (takeIn?_eq_some_iff fits digit).mp taken
              simp only [digitsInWord?, digits?, found, taken, same, ih]
          | none =>
              simp only [digitsInWord?, digits?, found, taken, reduceCtorEq, false_iff]
              intro read
              have held : word.toNat * radix + value < 2 ^ width :=
                Nat.lt_of_le_of_lt (le_of_digits? positive read) next.isLt
              have takes := (takeIn?_eq_some_iff fits digit).mpr (BitVec.toNat_ofNatLT _ held).symm
              rw [taken] at takes
              cases takes

/-- A look at overflow changes nothing where the word holds every number of so many digits. -/
theorem digitsInWord?_of_room (small : radix ≤ 16) (fits : radix < 2 ^ width)
    (room : (word.toNat + 1) * radix ^ text.length ≤ 2 ^ width) :
    digitsInWord? (fun word value => some (takeIn radix word value)) radix word text =
      digitsInWord? (takeIn? radix) radix word text := by
  induction text generalizing word with
  | nil => rfl
  | cons c rest ih =>
      rw [digitsInWord?, digitsInWord?]
      cases found : digit? radix c with
      | none => rfl
      | some value =>
          have digit : value < radix := ((digit?_eq_some_iff small).mp found).1
          have behind : (word.toNat * radix + value + 1) * radix ^ rest.length ≤ 2 ^ width :=
            calc (word.toNat * radix + value + 1) * radix ^ rest.length
                ≤ ((word.toNat + 1) * radix) * radix ^ rest.length := by
                  apply Nat.mul_le_mul_right
                  rw [Nat.succ_mul]
                  omega
              _ = (word.toNat + 1) * radix ^ (rest.length + 1) := by rw [Nat.pow_succ]; ring
              _ ≤ 2 ^ width := room
          have held : word.toNat * radix + value < 2 ^ width :=
            Nat.lt_of_succ_le (Nat.le_trans
              (Nat.le_mul_of_pos_right _ (Nat.pow_pos (Nat.zero_lt_of_lt digit))) behind)
          have same := BitVec.toNat_ofNatLT (word.toNat * radix + value) held
          have taken := (takeIn?_eq_some_iff fits digit).mpr same.symm
          simp only [takeIn_of_takeIn? taken, taken]
          exact ih (by rwa [same])

theorem magnitudeInWord?_eq_some_iff (positive : 0 < radix) (small : radix ≤ 16)
    (fits : radix < 2 ^ width) : magnitudeInWord? width radix text = some word ↔
      magnitude? radix text = some word.toNat := by
  have checked : digitsInWord? (takeIn? radix) radix 0 text = some word ↔
      digits? radix 0 text = some word.toNat := digitsInWord?_eq_some_iff positive small fits
  unfold magnitudeInWord?
  cases text with
  | nil => exact iff_of_false (Option.some_ne_none _ ·.symm) (Option.some_ne_none _ ·.symm)
  | cons c rest =>
      rw [if_neg (List.cons_ne_nil c rest), magnitude?, ← checked]
      split
      · rename_i short
        have room : radix ^ (c :: rest).length ≤ 2 ^ width :=
          calc radix ^ (c :: rest).length ≤ 16 ^ (c :: rest).length := Nat.pow_le_pow_left small _
            _ = 2 ^ (4 * (c :: rest).length) := by rw [Nat.pow_mul]
            _ ≤ 2 ^ width := Nat.pow_le_pow_right Nat.two_pos (by omega)
        rw [digitsInWord?_of_room small fits (by simpa using room)]
      · exact Iff.rfl

/-- A word is read exactly as the number is that it holds. -/
theorem unsignedInWord?_eq_some_iff (positive : 0 < radix) (small : radix ≤ 16)
    (fits : radix < 2 ^ width) : unsignedInWord? width radix text = some word ↔
      unsigned? radix (2 ^ width - 1) text = some word.toNat := by
  have held : word.toNat ≤ 2 ^ width - 1 := Nat.le_sub_one_of_lt word.isLt
  have behind (magnitude : List Char) : magnitudeInWord? width radix magnitude = some word ↔
      (magnitude? radix magnitude).filter (· ≤ 2 ^ width - 1) = some word.toNat := by
    rw [magnitudeInWord?_eq_some_iff positive small fits, Option.filter_eq_some_iff,
      decide_eq_true_eq, and_iff_left held]
  exact behind _

theorem toNat_unsignedInWord? (positive : 0 < radix) (small : radix ≤ 16)
    (fits : radix < 2 ^ width) (text : List Char) :
    (unsignedInWord? width radix text).map BitVec.toNat = unsigned? radix (2 ^ width - 1) text := by
  apply Option.ext
  intro number
  rw [Option.map_eq_some_iff]
  constructor
  · intro read
    obtain ⟨word, read, rfl⟩ := read
    exact (unsignedInWord?_eq_some_iff positive small fits).mp read
  · intro read
    have bounded := ((unsigned?_eq_some_iff small).mp read).2
    have held : number < 2 ^ width := Nat.lt_of_le_sub_one (Nat.two_pow_pos width) bounded
    have same := BitVec.toNat_ofNatLT number held
    refine ⟨.ofNatLT number held, ?_, same⟩
    rwa [unsignedInWord?_eq_some_iff positive small fits, same]

/-- Nothing is lost of what a text denotes, neither in its digits nor in a word. -/
structure ReadsExactly (radix : Nat) (text : List Char) : Prop where
  /-- A text denotes one number at most. -/
  unique : ∀ number other, IsNumeral radix text number → IsNumeral radix text other → number = other
  /-- It has the digits of this number, in either case, behind any number of zeros and a sign or none. -/
  written : ∀ number, IsNumeral radix text number ↔ ∃ sign digits, text = sign ++ digits ∧
    (sign = [] ∨ sign = ['+']) ∧ Writes radix digits number
  /-- A word that is read, of whatever width, holds this number, and a number it cannot hold is not read. -/
  words : ∀ width, 8 ≤ width → ∀ word : BitVec width,
    unsignedInWord? width radix text = some word ↔ IsNumeral radix text word.toNat

theorem readsExactly (radixed : 1 < radix) (small : radix ≤ 16) (text : List Char) :
    ReadsExactly radix text := by
  constructor
  · intro number other numeral otherwise
    exact numeral.unique otherwise small
  · intro number
    exact isNumeral_iff_writes radixed
  · intro width wide word
    have held : word.toNat ≤ 2 ^ width - 1 := Nat.le_sub_one_of_lt word.isLt
    have fits : radix < 2 ^ width :=
      calc radix ≤ 16 := small
        _ < 2 ^ 8 := by decide
        _ ≤ 2 ^ width := Nat.pow_le_pow_right Nat.two_pos wide
    rw [unsignedInWord?_eq_some_iff (Nat.zero_lt_of_lt radixed) small fits,
      unsigned?_eq_some_iff small, and_iff_left held]

-- Nothing but the look at overflow keeps 257 from being 1 in a byte.
example : unsignedInWord? 8 10 "257".toList = none ∧
    digitsInWord? (fun word value => some (takeIn 10 word value)) 10 0#8 "257".toList = some 1 := by
  decide

end SerialLink.Text
