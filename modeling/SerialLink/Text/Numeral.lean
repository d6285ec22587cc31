namespace SerialLink.Text

/-! Unsigned numerals.

A numeral is one or more digits, with at most one plus sign in front.  It may have any number of
leading zeros; what counts is the number it denotes, which must not be beyond a given limit.
-/

/-- The value of a digit, capital or not, in a radix of at most sixteen. -/
def digit? (radix : Nat) (c : Char) : Option Nat :=
  let value? :=
    if '0' ≤ c ∧ c ≤ '9' then some (c.toNat - '0'.toNat)
    else if 'a' ≤ c ∧ c ≤ 'f' then some (c.toNat - 'a'.toNat + 10)
    else if 'A' ≤ c ∧ c ≤ 'F' then some (c.toNat - 'A'.toNat + 10)
    else none
  value?.filter (· < radix)

/-- Reads digits behind those that denote `front`. -/
def digits? (radix front : Nat) : List Char → Option Nat
  | [] => some front
  | c :: rest =>
      match digit? radix c with
      | none => none
      | some value => digits? radix (front * radix + value) rest

/-- Reads one or more digits and nothing else. -/
def magnitude? (radix : Nat) : List Char → Option Nat
  | [] => none
  | c :: rest => digits? radix 0 (c :: rest)

/-- Reads a numeral that denotes at most `limit`. -/
def unsigned? (radix limit : Nat) (text : List Char) : Option Nat :=
  let magnitude :=
    match text with
    | '+' :: rest => rest
    | other => other
  (magnitude? radix magnitude).filter (· ≤ limit)

end SerialLink.Text
