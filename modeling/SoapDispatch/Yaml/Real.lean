/-!
# Fractions of double precision

Numbers that are not written as integers have double precision: a mantissa of 53 bits times a power
of two. A decimal stands for the nearest such number, a tie for the one with the even mantissa.
Every number has one form, so numbers are equal exactly if their forms are.
-/

namespace SoapDispatch.Yaml

/-- A number of double precision, or one of the special values. -/
inductive Real where
  /-- `mantissa` times two to the power of `exponent`: the mantissa has 53 bits, or fewer where the
  exponent is the least one. Zero has no sign. -/
  | finite (mantissa exponent : Int)
  | infinite (negative : Bool)
  | undefined
deriving DecidableEq, Repr

/-- A quotient rounded to a natural number; a tie goes to the even one. -/
def roundQuotient (numerator denominator : Nat) : Nat :=
  let quotient := numerator / denominator
  let twice := 2 * (numerator % denominator)
  if twice < denominator || (twice = denominator && quotient % 2 = 0) then quotient
  else quotient + 1

/-- Rounding is off by at most a half. -/
theorem roundQuotient_near (numerator : Nat) {denominator : Nat} (positive : 0 < denominator) :
    2 * numerator ≤ (2 * roundQuotient numerator denominator + 1) * denominator ∧
      2 * roundQuotient numerator denominator * denominator ≤ 2 * numerator + denominator := by
  have parts := Nat.div_add_mod numerator denominator
  have small := Nat.mod_lt numerator positive
  have commuted := Nat.mul_comm denominator (numerator / denominator)
  unfold roundQuotient
  dsimp only
  split
  · rename_i below
    simp only [Bool.or_eq_true, decide_eq_true_eq, Bool.and_eq_true] at below
    constructor <;> grind
  · rename_i above
    simp only [Bool.or_eq_true, decide_eq_true_eq, Bool.and_eq_true, not_or] at above
    constructor <;> grind

namespace Real

/-- The least exponent. -/
def leastExponent : Int := -1074

/-- The greatest exponent. -/
def greatestExponent : Int := 971

/-- How many bits a mantissa has. -/
def precision : Nat := 53

/-- The greatest power of two that is not above a positive quotient. -/
def binaryOrder (numerator denominator : Nat) : Int :=
  let order : Int := (numerator.log2 : Int) - denominator.log2
  if denominator * Nat.pow 2 order.toNat ≤ numerator * Nat.pow 2 (-order).toNat then order
  else order - 1

/-- The number of the given sign, mantissa and exponent, if it is not too great. A mantissa that
rounding has made one bit longer is shortened. -/
def ofMantissa? (negative : Bool) (mantissa : Nat) (exponent : Int) : Option Real :=
  let (mantissa, exponent) :=
    if mantissa = Nat.pow 2 precision then (mantissa / 2, exponent + 1) else (mantissa, exponent)
  if mantissa = 0 then some (.finite 0 leastExponent)
  else if greatestExponent < exponent then none
  else some (.finite (if negative then -mantissa else mantissa) exponent)

/-- The number nearest to a quotient, if it is not too great. -/
def ofQuotient? (negative : Bool) (numerator denominator : Nat) : Option Real :=
  let exponent := max leastExponent (binaryOrder numerator denominator + 1 - precision)
  let mantissa := roundQuotient (numerator * Nat.pow 2 (-exponent).toNat)
    (denominator * Nat.pow 2 exponent.toNat)
  ofMantissa? negative mantissa exponent

/-- The number nearest to `mantissa` times ten to the power of `exponent`, if it is not too great.
Decimals that are far from everything but zero and infinity need no computation. -/
def ofDecimal? (negative : Bool) (mantissa : Nat) (exponent : Int) : Option Real :=
  let order := (Nat.toDigits 10 mantissa).length + exponent
  if mantissa = 0 || order < -400 then ofMantissa? negative 0 leastExponent
  else if 400 < order then none
  else ofQuotient? negative (mantissa * Nat.pow 10 exponent.toNat) (Nat.pow 10 (-exponent).toNat)

end Real

end SoapDispatch.Yaml
