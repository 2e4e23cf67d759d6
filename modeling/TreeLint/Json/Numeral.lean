import TreeLint.Text.Decimal

/-!
# Numbers in JSON text

A numeral is the written form of a number: its sign, its digits before and
after the point, and its exponent.  Whole numbers of 64 bits are read exactly;
every other numeral is read as a double from a 64-bit significand and a power
of ten, and a numeral beyond the doubles has no value.
-/

namespace TreeLint

namespace Json

/-- A number as it is written.  `fraction` is empty exactly when no point is
written, and `exponent` pairs the sign of the exponent with its digits. -/
structure Numeral where
  negative : Bool
  whole : List Nat
  fraction : List Nat
  exponent : Option (Bool × List Nat)
deriving DecidableEq, Repr

/-- What a numeral stands for: a whole number, or the text of a double. -/
inductive Quantity where
  | integer (value : Int)
  | real (written : String)
deriving DecidableEq, Repr

namespace Numeral

/-- The largest significand. -/
def significandLimit : Nat := UInt64.size - 1

/-- The largest exponent that is read digit by digit. -/
def exponentLimit : Nat := 0x7fffffff

/-- Reads digits into a number until the next digit would pass the limit;
returns the number and the digits that were left. -/
def absorb (limit : Nat) (value : Nat) : List Nat → Nat × List Nat
  | [] => (value, [])
  | digit :: digits =>
    if limit < value * 10 + digit then (value, digit :: digits)
    else absorb limit (value * 10 + digit) digits

/-- The double `significand * 10 ^ exponent`, computed with one rounding for
the significand and one for each scaling; none beyond the largest double. -/
def scale (value : Float) (exponent : Int) : Option Float :=
  if exponent.natAbs ≤ 308 then
    let power := Float.ofScientific 1 false exponent.natAbs
    if 0 ≤ exponent then
      let scaled := value * power
      if scaled.isInf then none else some scaled
    else some (value / power)
  else if value == 0.0 then some value
  else if 0 ≤ exponent then none
  else scale (value / 1e308) (exponent + 308)
termination_by exponent.natAbs
decreasing_by omega

/-- The double of a significand and a power of ten under a written exponent. -/
def real (negative : Bool) (significand : Nat) (shift : Int)
    (exponent : Option (Bool × List Nat)) : Option Quantity :=
  let signed (value : Float) : Quantity :=
    .real (Decimal.text (if negative then -value else value))
  let start := significand.toUInt64.toFloat
  match exponent with
  | none => (scale start shift).map signed
  | some (negativeExponent, digits) =>
    match absorb exponentLimit 0 digits with
    | (size, []) =>
      let size : Int := Int.ofNat size
      let final := if negativeExponent then shift - size else shift + size
      (scale start final).map signed
    | (_, _ :: _) =>
      if significand != 0 && !negativeExponent then none
      else some (signed 0.0)

/-- The value of a numeral, if it has one.  A negative zero is a double. -/
def quantity? (numeral : Numeral) : Option Quantity :=
  match absorb significandLimit 0 numeral.whole with
  | (significand, left) =>
    if left.isEmpty && numeral.fraction.isEmpty && numeral.exponent.isNone then
      if !numeral.negative then some (.integer significand)
      else if significand == 0 || 0x8000000000000000 < significand then
        real true significand 0 none
      else some (.integer (-(significand : Int)))
    else
      let (significand', unread) := absorb significandLimit significand numeral.fraction
      let kept := numeral.fraction.length - unread.length
      real numeral.negative significand' (left.length - kept : Int) numeral.exponent

end Numeral

end Json

end TreeLint
