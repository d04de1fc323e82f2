/-! Double-precision numbers as exact values, and the rounding of ratios to them. -/

namespace ContentClasses

/-- A double-precision number. -/
inductive Binary64 where
  /-- A sign with the magnitude `significand * 2 ^ exponent`. -/
  | finite (negative : Bool) (significand : Nat) (exponent : Int)
  | infinite (negative : Bool)
  | notANumber
  deriving DecidableEq, Repr, Inhabited

namespace Binary64

/-- The number zero with a sign. -/
def zero (negative : Bool) : Binary64 := .finite negative 0 0

/-- The least exponent, which the numbers nearest to zero have. -/
def minExponent : Int := -1074

/-- The greatest exponent. -/
def maxExponent : Int := 971

/-- The least significand of numbers above the least exponent, which is `2 ^ 52`. -/
def leastSignificand : Nat := 0x10000000000000

/-- The quotient rounded to the nearest number, and to the even one of two nearest. -/
def roundQuotient (numerator denominator : Nat) : Nat :=
  let quotient := numerator / denominator
  let twice := 2 * (numerator % denominator)
  if twice < denominator then quotient
  else if denominator < twice then quotient + 1
  else quotient + quotient % 2

/-- The quotient of a ratio by a power of two, as a ratio. -/
def scaleRatio (numerator denominator : Nat) (exponent : Int) : Nat × Nat :=
  (numerator * Nat.pow 2 (-exponent).toNat, denominator * Nat.pow 2 exponent.toNat)

/-- The number nearest to a ratio of positive denominator, under a sign. -/
def ofRatio (negative : Bool) (numerator denominator : Nat) : Binary64 :=
  if numerator = 0 then zero negative
  else
    -- The logarithms place the ratio between two neighbouring powers of two.
    let guess : Int := (numerator.log2 : Int) - (denominator.log2 : Int) - 52
    let (wide, unit) := scaleRatio numerator denominator guess
    let exponent := max minExponent (if wide < unit * leastSignificand then guess - 1 else guess)
    let (scaled, divisor) := scaleRatio numerator denominator exponent
    let significand := roundQuotient scaled divisor
    -- Rounding may carry into a digit more.
    let (significand, exponent) :=
      if significand = 2 * leastSignificand then (leastSignificand, exponent + 1)
      else (significand, exponent)
    if maxExponent < exponent then .infinite negative else .finite negative significand exponent

/-- The number nearest to `digits * 10 ^ exponent`, under a sign. -/
def ofDecimal (negative : Bool) (digits : Nat) (exponent : Int) : Binary64 :=
  let magnitude : Int := (Nat.toDigits 10 digits).length + exponent
  -- Far outside the range the power of ten itself is never computed.
  if digits = 0 || magnitude < -400 then zero negative
  else if 400 < magnitude then .infinite negative
  else ofRatio negative (digits * Nat.pow 10 exponent.toNat) (Nat.pow 10 (-exponent).toNat)

/-- The product of magnitudes under the first sign, for finite numbers. -/
def times : Binary64 → Binary64 → Binary64
  | .finite negative left leftExponent, .finite _ right rightExponent =>
    let (numerator, denominator) := scaleRatio (left * right) 1 (-(leftExponent + rightExponent))
    ofRatio negative numerator denominator
  | number, _ => number

/-- The quotient of magnitudes under the first sign, for finite numbers and a divisor that is not
zero. -/
def dividedBy : Binary64 → Binary64 → Binary64
  | .finite negative left leftExponent, .finite _ right rightExponent =>
    let (numerator, denominator) := scaleRatio left right (rightExponent - leftExponent)
    ofRatio negative numerator denominator
  | number, _ => number

/-- Whether a number is zero of either sign. -/
def isZero : Binary64 → Bool
  | .finite _ significand _ => significand = 0
  | _ => false

/-- Whether a number is beyond all finite ones. -/
def isInfinite : Binary64 → Bool
  | .infinite _ => true
  | _ => false

/-- The number of opposite sign. -/
def negated : Binary64 → Binary64
  | .finite negative significand exponent => .finite (!negative) significand exponent
  | .infinite negative => .infinite (!negative)
  | .notANumber => .notANumber

end Binary64

end ContentClasses
