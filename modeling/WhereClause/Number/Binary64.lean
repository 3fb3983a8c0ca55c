/-!
# Binary numbers of double precision

Floating-point numbers as exact integers: a sign, a significand and a power of two. Products and
quotients are computed exactly and then rounded once, to the nearest number and to the even one of
two nearest.
-/

namespace WhereClause.Number

/-- The magnitude `significand · 2 ^ exponent`. -/
structure Magnitude where
  significand : Nat
  exponent : Int
  deriving DecidableEq, Repr

namespace Magnitude

/-- The exponent of the smallest positive number. -/
def leastExponent : Int :=
  -1074

/-- The exponent of the largest finite numbers. -/
def greatestExponent : Int :=
  971

/-- One more than the largest significand. -/
def significandBound : Nat :=
  Nat.pow 2 53

/-- The least significand of a number above the least exponent. -/
def normalSignificand : Nat :=
  Nat.pow 2 52

/-- The fraction `numerator / denominator` in units of `2 ^ exponent`, again as a
fraction. -/
def inUnits (numerator denominator : Nat) (exponent : Int) : Nat × Nat :=
  if 0 ≤ exponent then
    (numerator, denominator * Nat.pow 2 exponent.toNat)
  else
    (numerator * Nat.pow 2 (-exponent).toNat, denominator)

/-- The integer nearest to a fraction; of two nearest ones the even one. -/
def nearest (numerator denominator : Nat) : Nat :=
  let quotient := numerator / denominator
  let remainder := numerator % denominator
  if 2 * remainder < denominator then quotient
  else if denominator < 2 * remainder then quotient + 1
  else quotient + quotient % 2

/-- The exponent at which a positive fraction has a significand of full length, or the
least exponent where that one is larger. -/
def exponentOf (numerator denominator : Nat) : Int :=
  let guess : Int := (numerator.log2 : Int) - denominator.log2 - 52
  let scaled := inUnits numerator denominator guess
  let fitted :=
    if scaled.1 < normalSignificand * scaled.2 then guess - 1 else guess
  max leastExponent fitted

/-- The magnitude nearest to a fraction, without an upper limit on the exponent. -/
def ofFraction (numerator denominator : Nat) : Magnitude :=
  if numerator = 0 then ⟨0, leastExponent⟩
  else
    let exponent := exponentOf numerator denominator
    let scaled := inUnits numerator denominator exponent
    let significand := nearest scaled.1 scaled.2
    if significand = significandBound then
      ⟨normalSignificand, exponent + 1⟩
    else
      ⟨significand, exponent⟩

/-- A natural number rounded to a magnitude. -/
def ofNat (value : Nat) : Magnitude :=
  ofFraction value 1

/-- Whether the magnitude is too large to be a finite number. -/
def overflows (magnitude : Magnitude) : Bool :=
  greatestExponent < magnitude.exponent

def fraction (magnitude : Magnitude) : Nat × Nat :=
  if 0 ≤ magnitude.exponent then
    (magnitude.significand * Nat.pow 2 magnitude.exponent.toNat, 1)
  else
    (magnitude.significand, Nat.pow 2 (-magnitude.exponent).toNat)

/-- The rounded product. -/
def mul (left right : Magnitude) : Magnitude :=
  ofFraction
    (left.fraction.1 * right.fraction.1) (left.fraction.2 * right.fraction.2)

/-- The rounded quotient. -/
def div (left right : Magnitude) : Magnitude :=
  ofFraction
    (left.fraction.1 * right.fraction.2) (left.fraction.2 * right.fraction.1)

end Magnitude

/-- A double-precision number; zero has both signs. -/
structure Binary64 where
  negative : Bool
  magnitude : Magnitude
  deriving DecidableEq, Repr

namespace Binary64

/-- The largest power of ten that scales a significand in one step. -/
def largestPower : Nat :=
  308

/-- A significand scaled by a power of ten: one rounded product or quotient, and below
`10 ^ -308` a second quotient. A significand that is too large once scaled has no
number. -/
def scaled? (significand : Nat) (power : Int) : Option Magnitude :=
  let base := Magnitude.ofNat significand
  let ten (count : Nat) := Magnitude.ofNat (Nat.pow 10 count)
  if 0 ≤ power then
    if power.toNat ≤ largestPower then
      let product := base.mul (ten power.toNat)
      if product.overflows then none else some product
    else if significand = 0 then some base
    else none
  else if (-power).toNat ≤ largestPower then
    some (base.div (ten (-power).toNat))
  else if (-power).toNat ≤ 2 * largestPower then
    some ((base.div (ten largestPower)).div
      (ten ((-power).toNat - largestPower)))
  else some (Magnitude.ofNat 0)

end Binary64

end WhereClause.Number
