/-!
# Numbers written in digits

Numbers are written from their leading digit on, in ASCII digits of a base and
sometimes with a plus sign in front.
-/

namespace TreeLint

namespace Text

/-- The number whose digits in a base are given, the leading one first. -/
def ofDigits (base : Nat) (digits : List Nat) : Nat :=
  digits.foldl (fun value digit => value * base + digit) 0

/-- The value of a decimal digit. -/
def digitValue (digit : Char) : Nat :=
  digit.toNat - '0'.toNat

/-- The value of a hexadecimal digit. -/
def hexDigit? (c : Char) : Option Nat :=
  if '0' ≤ c && c ≤ '9' then some (digitValue c)
  else if 'a' ≤ c && c ≤ 'f' then some (c.toNat - 'a'.toNat + 10)
  else if 'A' ≤ c && c ≤ 'F' then some (c.toNat - 'A'.toNat + 10)
  else none

/-- The number written by a list of decimal digits. -/
def numeral (digits : List Char) : Nat :=
  ofDigits 10 (digits.map digitValue)

/-- Passes over one plus sign. -/
def skipPlus : List Char → List Char
  | '+' :: rest => rest
  | text => text

theorem skipPlus_length_le (text : List Char) : (skipPlus text).length ≤ text.length := by
  unfold skipPlus
  split <;> simp

/-- The number that a text writes after at most one plus sign, if it fits into a
machine word. -/
def word? (text : List Char) : Option Nat :=
  let digits := skipPlus text
  if digits.isEmpty || !digits.all Char.isDigit || UInt64.size ≤ numeral digits then none
  else some (numeral digits)

end Text

end TreeLint
