/-!
# Shortest decimal text of a binary fraction

A double stands for `mantissa * 2 ^ exponent`.  Every real closer to it than
to its neighbours reads back as the same double, and these reals form an
interval.  The text of a double is the shortest decimal inside that interval,
among the shortest the one nearest to the value, and of two equally near ones
the one that ends in an even digit.  All comparisons are made in exact integer
arithmetic.
-/

namespace TreeLint

namespace Decimal

/-- A positive rational given as a fraction of two naturals. -/
structure Ratio where
  numerator : Nat
  denominator : Nat

/-- `value * 2 ^ exponent` as a fraction. -/
def Ratio.scaled (value : Nat) (exponent : Int) : Ratio :=
  if 0 ≤ exponent then ⟨value <<< exponent.toNat, 1⟩
  else ⟨value, 1 <<< (-exponent).toNat⟩

/-- `value * 10 ^ exponent` as a fraction. -/
def Ratio.decimal (value : Nat) (exponent : Int) : Ratio :=
  if 0 ≤ exponent then ⟨value * Nat.pow 10 exponent.toNat, 1⟩
  else ⟨value, Nat.pow 10 (-exponent).toNat⟩

def Ratio.lt (left right : Ratio) : Bool :=
  left.numerator * right.denominator < right.numerator * left.denominator

/-- The reals that read back as one double: the double itself, the two ends of
its interval, and whether the ends still belong to it. -/
structure Interval where
  value : Ratio
  low : Ratio
  high : Ratio
  closed : Bool

def Interval.contains (interval : Interval) (candidate : Ratio) : Bool :=
  if interval.closed then
    !candidate.lt interval.low && !interval.high.lt candidate
  else
    interval.low.lt candidate && candidate.lt interval.high

/-- The mantissa of a power of two: the bit that is not stored. -/
def hiddenBit : Nat := 0x10000000000000

/-- The interval of `mantissa * 2 ^ exponent`.  Below a power of two the
neighbours stand twice as close, except at the smallest exponent. -/
def Interval.ofBinary (mantissa : Nat) (exponent : Int) : Interval :=
  let gapBelow := if mantissa == hiddenBit && -1074 < exponent then 1 else 2
  { value := .scaled mantissa exponent
    low := .scaled (4 * mantissa - gapBelow) (exponent - 2)
    high := .scaled (4 * mantissa + 2) (exponent - 2)
    closed := mantissa % 2 == 0 }

/-- The exponent of the leading decimal digit: the largest power of ten that
does not exceed the value, searched downwards from `start`. -/
def leadingExponent (value : Ratio) (start : Int) : Nat → Int
  | 0 => start
  | fuel + 1 =>
    if value.lt (.decimal 1 start) then leadingExponent value (start - 1) fuel else start

/-- On the grid of multiples of `10 ^ exponent`, the neighbour of the value
that lies in its interval and is nearest to it.  In the middle between two
neighbours the even one is taken. -/
def gridPoint? (interval : Interval) (exponent : Int) : Option Nat :=
  let unit := Ratio.decimal 1 exponent
  let below :=
    interval.value.numerator * unit.denominator /
      (interval.value.denominator * unit.numerator)
  let above := below + 1
  let holdsBelow := below != 0 && interval.contains (.decimal below exponent)
  let holdsAbove := interval.contains (.decimal above exponent)
  let doubled : Ratio :=
    ⟨2 * interval.value.numerator * unit.denominator,
      interval.value.denominator * unit.numerator⟩
  let middle : Ratio := ⟨2 * below + 1, 1⟩
  let nearBelow := doubled.lt middle || (!middle.lt doubled && below % 2 == 0)
  if holdsBelow && (nearBelow || !holdsAbove) then some below
  else if holdsAbove then some above
  else none

/-- The first grid, from the coarsest of one digit on, that has a point in the
interval, with that point. -/
def firstGrid (interval : Interval) (exponent : Int) : Nat → Nat × Int
  | 0 => ((gridPoint? interval exponent).getD 0, exponent)
  | finer + 1 =>
    match gridPoint? interval exponent with
    | some digits => (digits, exponent)
    | none => firstGrid interval (exponent - 1) finer

/-- The digits and the power of ten of the shortest decimal of a positive
double.  The search starts one place before the leading digit, since a value
just below a power of ten may be written as that power. -/
def shortest (mantissa : Nat) (exponent : Int) : Nat × Int :=
  let interval := Interval.ofBinary mantissa exponent
  firstGrid interval (leadingExponent interval.value 309 640 + 1) 18

/-- `digits * 10 ^ exponent` written without an exponent, always with a
decimal point. -/
def positional (digits : Nat) (exponent : Int) : String :=
  let written := toString digits
  if 0 ≤ exponent then
    written ++ String.ofList (List.replicate exponent.toNat '0') ++ ".0"
  else
    let places := (-exponent).toNat
    let padded :=
      List.replicate (places + 1 - written.length) '0' ++ written.toList
    let whole := padded.length - places
    String.ofList (padded.take whole) ++ "." ++ String.ofList (padded.drop whole)

/-- `digits * 10 ^ exponent` written with one digit before the point, and with the
sign of the exponent. -/
def scientific (digits : Nat) (exponent : Int) : String :=
  let written := (toString digits).toList
  let leading := exponent + written.length - 1
  let fraction := written.drop 1
  String.ofList (written.take 1) ++
    (if fraction.isEmpty then "" else "." ++ String.ofList fraction) ++
    (if leading < 0 then "e-" else "e+") ++ toString leading.natAbs

/-- Numbers from `0.00001` up to sixteen digits before the point are written
without an exponent. -/
def written (digits : Nat) (exponent : Int) : String :=
  let leading := exponent + (toString digits).length - 1
  if -5 ≤ leading && leading < 16 then positional digits exponent
  else scientific digits exponent

/-- The text of a finite double in its shortest digits. -/
def text (value : Float) : String :=
  let bits := value.toBits.toNat
  let sign := if 0x800 ≤ bits / hiddenBit then "-" else ""
  let biased : Nat := bits / hiddenBit % 0x800
  let stored := bits % hiddenBit
  if biased == 0 && stored == 0 then sign ++ "0.0"
  else
    let (digits, exponent) :=
      if biased == 0 then shortest stored (-1074)
      else shortest (stored + hiddenBit) (Int.ofNat biased - 1075)
    sign ++ written digits exponent

end Decimal

end TreeLint
