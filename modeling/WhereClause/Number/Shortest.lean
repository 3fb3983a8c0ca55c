import WhereClause.Number.Binary64

/-!
# Shortest decimals

A decimal reads back as a binary number when it lies among the reals that round to it; the
coarsest decimal grid with such a point is taken, and on it the point nearest to the number.
-/

namespace WhereClause.Number

/-- The decimal `digits · 10 ^ exponent`. -/
structure Decimal where
  digits : Nat
  exponent : Int
  deriving DecidableEq, Repr

/-- The number of decimal digits of a natural number; one for zero. -/
def digitCount (value : Nat) : Nat :=
  (Nat.toDigits 10 value).length

/-- The reals that round to a magnitude, as bounds in quarters of its last place. The
gap below a power of two is half as wide as the one above. -/
structure Interval where
  lower : Nat
  centre : Nat
  upper : Nat
  closed : Bool
  deriving Repr

namespace Interval

/-- The reals that round to a magnitude; its bounds belong to it when the significand is
even. -/
def ofMagnitude (magnitude : Magnitude) : Interval :=
  let centre := 4 * magnitude.significand
  let narrow :=
    magnitude.significand = Magnitude.normalSignificand ∧
      Magnitude.leastExponent < magnitude.exponent
  { lower := if narrow then centre - 1 else centre - 2
    centre
    upper := centre + 2
    closed := magnitude.significand % 2 = 0 }

/-- Whether a point, given in the same units, lies in the interval. -/
def contains (interval : Interval) (point : Nat) : Bool :=
  if interval.closed then
    interval.lower ≤ point && point ≤ interval.upper
  else
    interval.lower < point && point < interval.upper

/-- The interval in units that are smaller by `factor`. -/
def scale (interval : Interval) (factor : Nat) : Interval :=
  { interval with
    lower := interval.lower * factor
    centre := interval.centre * factor
    upper := interval.upper * factor }

/-- The point of the grid with the given spacing that lies in the interval nearest to
its centre; of two nearest points the even one. -/
def pointOnGrid? (interval : Interval) (spacing : Nat) : Option Nat :=
  let below := interval.centre / spacing
  let above := below + 1
  let gapBelow := interval.centre - below * spacing
  let gapAbove := above * spacing - interval.centre
  match interval.contains (below * spacing),
      interval.contains (above * spacing) with
  | true, true =>
      if gapBelow < gapAbove then some below
      else if gapAbove < gapBelow then some above
      else some (below + below % 2)
  | true, false => some below
  | false, true => some above
  | false, false => none

end Interval

/-- Drops the zeros at the end of the digits; `count` bounds their number. -/
def dropZeros : Nat → Decimal → Decimal
  | 0, decimal => decimal
  | count + 1, ⟨digits, exponent⟩ =>
      if digits ≠ 0 ∧ digits % 10 = 0 then
        dropZeros count ⟨digits / 10, exponent + 1⟩
      else ⟨digits, exponent⟩

/-- The exponent of the leading decimal digit of a positive fraction. -/
def leadingExponent (numerator denominator : Nat) : Int :=
  if denominator ≤ numerator then
    (digitCount (numerator / denominator) : Int) - 1
  else
    -(digitCount (denominator / numerator) : Int) +
      (if denominator =
          numerator * Nat.pow 10 (digitCount (denominator / numerator) - 1)
        then 1 else 0)

/-- The point of the interval of `magnitude` on the grid of `10 ^ exponent`. -/
def Magnitude.onGrid? (magnitude : Magnitude) (exponent : Int) : Option Decimal :=
  let interval := Interval.ofMagnitude magnitude
  let binary := magnitude.exponent - 2
  let factor := Nat.pow 2 binary.toNat * Nat.pow 10 (-exponent).toNat
  let spacing := Nat.pow 2 (-binary).toNat * Nat.pow 10 exponent.toNat
  ((interval.scale factor).pointOnGrid? spacing).map fun digits =>
    ⟨digits, exponent⟩

/-- The magnitude as a decimal, without rounding. -/
def Magnitude.exact (magnitude : Magnitude) : Decimal :=
  if 0 ≤ magnitude.exponent then
    ⟨magnitude.significand * Nat.pow 2 magnitude.exponent.toNat, 0⟩
  else
    ⟨magnitude.significand * Nat.pow 5 (-magnitude.exponent).toNat,
      magnitude.exponent⟩

/-- The shortest decimal that reads back as a positive magnitude; seventeen digits are
always enough. -/
def Magnitude.shortest (magnitude : Magnitude) : Decimal :=
  let leading := leadingExponent magnitude.fraction.1 magnitude.fraction.2
  let found :=
    (List.range 17).findSome? fun (count : Nat) =>
      magnitude.onGrid? (leading - count)
  match found with
  | some decimal => dropZeros (digitCount decimal.digits) decimal
  | none => magnitude.exact

/-- Where a written number changes from positional to scientific form: the least and the
greatest exponent of the leading digit that are written positionally. -/
structure Layout where
  leastPositional : Int
  greatestPositional : Int
  deriving Repr

/-- A run of zeros. -/
def zeros (count : Nat) : String :=
  String.ofList (List.replicate count '0')

/-- The decimal written out, with at least one digit after the point. -/
def Decimal.positional (decimal : Decimal) : String :=
  let digits := Nat.toDigits 10 decimal.digits
  if 0 ≤ decimal.exponent then
    String.ofList digits ++ zeros decimal.exponent.toNat ++ ".0"
  else
    let places := (-decimal.exponent).toNat
    if places < digits.length then
      String.ofList (digits.take (digits.length - places)) ++ "." ++
        String.ofList (digits.drop (digits.length - places))
    else
      "0." ++ zeros (places - digits.length) ++ String.ofList digits

/-- The decimal with one digit before the point and a signed power of ten. -/
def Decimal.scientific (decimal : Decimal) : String :=
  let digits := Nat.toDigits 10 decimal.digits
  let power := decimal.exponent + (digits.length : Int) - 1
  let mantissa :=
    String.ofList (digits.take 1) ++
      (if digits.length = 1 then "" else "." ++ String.ofList (digits.drop 1))
  mantissa ++ "e" ++ (if 0 ≤ power then "+" else "-") ++ toString power.natAbs

/-- The text of a number under a layout. -/
def Binary64.text (layout : Layout) (number : Binary64) : String :=
  let body :=
    if number.magnitude.significand = 0 then "0.0"
    else
      let decimal := number.magnitude.shortest
      let leading := decimal.exponent + (digitCount decimal.digits : Int) - 1
      if layout.leastPositional ≤ leading ∧
          leading ≤ layout.greatestPositional then
        decimal.positional
      else decimal.scientific
  if number.negative then "-" ++ body else body

end WhereClause.Number
