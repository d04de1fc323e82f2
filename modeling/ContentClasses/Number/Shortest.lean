import ContentClasses.Number.Binary64

/-! The fewest decimal digits that tell a double-precision number from its neighbours, and their
layouts. -/

namespace ContentClasses

/-- A decimal number `digits * 10 ^ exponent`. -/
structure Decimal where
  digits : Nat
  exponent : Int
  deriving DecidableEq, Repr

namespace Binary64

/-- The point nearest to a magnitude on the grid of multiples of `10 ^ exponent`, if it rounds to
it. -/
def gridPoint? (significand : Nat) (exponent gridExponent : Int) : Option Nat :=
  -- Quarters of the last binary place make the ends of the rounding interval whole numbers.
  let value := 4 * significand
  let low :=
    if significand = leastSignificand && minExponent < exponent then value - 1 else value - 2
  let high := value + 2
  let closed := significand % 2 == 0
  let place := Nat.pow 2 (exponent - 2).toNat * Nat.pow 10 (-gridExponent).toNat
  let step := Nat.pow 2 (2 - exponent).toNat * Nat.pow 10 gridExponent.toNat
  let inside (point : Nat) : Bool :=
    if closed then low * place ≤ point * step && point * step ≤ high * place
    else low * place < point * step && point * step < high * place
  let below := value * place / step
  let rest := value * place - below * step
  if inside below then
    if inside (below + 1) && (step < 2 * rest || (step == 2 * rest && below % 2 == 1))
    then some (below + 1) else some below
  else if inside (below + 1) then some (below + 1)
  else none

/-- The first grid with a point that rounds to the magnitude, from coarse grids to fine ones. -/
def coarsest (significand : Nat) (exponent : Int) : (budget : Nat) → (gridExponent : Int) → Decimal
  | 0, gridExponent => ⟨significand, gridExponent⟩
  | budget + 1, gridExponent =>
    match gridPoint? significand exponent gridExponent with
    | some point => ⟨point, gridExponent⟩
    | none => coarsest significand exponent budget (gridExponent - 1)

/-- The decimal of fewest digits that rounds to a positive magnitude, and the nearest among those.
-/
def shortest (significand : Nat) (exponent : Int) : Decimal :=
  -- No point of a grid coarser than the first one tried lies below twice the magnitude.
  let start := ((significand.log2 : Int) + exponent + 2) * 30103 / 100000 + 1
  coarsest significand exponent 24 start

end Binary64

namespace Decimal

/-- The decimal digits of a number. -/
def digitText (decimal : Decimal) : List Char := Nat.toDigits 10 decimal.digits

/-- The position of the decimal point, counted from before the first digit. -/
def pointPosition (decimal : Decimal) : Int := decimal.digitText.length + decimal.exponent

/-- The digits with a decimal point where one is needed, and zeros in empty places. -/
def positional (decimal : Decimal) : List Char :=
  let digits := decimal.digitText
  let position := decimal.pointPosition
  if position ≤ 0 then ['0', '.'] ++ List.replicate (-position).toNat '0' ++ digits
  else if position < digits.length then
    digits.take position.toNat ++ ['.'] ++ digits.drop position.toNat
  else digits ++ List.replicate decimal.exponent.toNat '0'

/-- One digit before the decimal point, and the power of ten with its sign. -/
def scientific (decimal : Decimal) : List Char :=
  let power := decimal.pointPosition - 1
  let mantissa := match decimal.digitText with
    | first :: second :: rest => first :: '.' :: second :: rest
    | short => short
  mantissa ++ ['e', if power < 0 then '-' else '+'] ++ Nat.toDigits 10 power.natAbs

end Decimal

namespace Binary64

/-- The text with a fraction, which a number without decimal point gets as `.0`. -/
def withFraction (text : List Char) : List Char :=
  if text.contains '.' then text else text ++ ['.', '0']

/-- A text under the sign of a number. -/
def signed (negative : Bool) (text : List Char) : String :=
  String.ofList (if negative then '-' :: text else text)

/-- All digits of a number in their places, without an exponent. -/
def positional : Binary64 → String
  | .finite negative significand exponent =>
    signed negative (if significand = 0 then ['0'] else (shortest significand exponent).positional)
  | .infinite negative => signed negative ['i', 'n', 'f']
  | .notANumber => "NaN"

/-- All digits of a number in their places, with a fraction if the number is finite. -/
def positionalFraction : Binary64 → String
  | .finite negative significand exponent =>
    signed negative <| withFraction <|
      if significand = 0 then ['0'] else (shortest significand exponent).positional
  | number => number.positional

/-- Digits in their places from a hundred thousandth up to sixteen places, and with a power of ten
beyond. -/
def compact : Binary64 → String
  | .finite negative significand exponent =>
    signed negative <|
      if significand = 0 then ['0', '.', '0']
      else
        let decimal := shortest significand exponent
        if -4 ≤ decimal.pointPosition && decimal.pointPosition ≤ 16
        then withFraction decimal.positional
        else decimal.scientific
  | number => number.positional

end Binary64

end ContentClasses
