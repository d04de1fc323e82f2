import ContentClasses.Number.Binary64
import ContentClasses.Toml.Scan

/-! Integers and floats of TOML, read. -/

namespace ContentClasses.Toml.Scan

/-- Reads digits with single underscores between them. -/
def digitRun (kind : Char → Bool) : Scan (List Char) := do
  let first ← satisfying kind
  let rest ← many do
    let _ ← maybe (char '_')
    satisfying kind
  -- An underscore after the last digit is not part of a number.
  if (← peek) = some '_' then failure
  return first :: rest

/-- Reads a sign, and says whether it is a minus. -/
def sign : Scan Bool := do
  match ← peek with
  | some '-' => do
    let _ ← next
    return true
  | some '+' => do
    let _ ← next
    return false
  | _ => return false

/-- Reads the digits of a decimal integer, which has no zero in front. -/
def decimalDigits : Scan (List Char) := do
  if (← peek) = some '0' then do
    let zero ← next
    return [zero]
  else digitRun Char.isDigit

/-- The signed value of a magnitude, if it fits into 64 bits. -/
def fitting? (negative : Bool) (magnitude : Nat) : Option Int :=
  if negative then
    if magnitude ≤ 0x8000000000000000 then some (-magnitude) else none
  else if magnitude < 0x8000000000000000 then some magnitude
  else none

/-- Reads an integer in a base shown by its second character. -/
def based (letter : Char) (base : Nat) (kind : Char → Bool) : Scan Int := do
  word ['0', letter]
  let digits ← digitRun kind
  match fitting? false (digitsValue base digits) with
  | some value => return value
  | none => failure

/-- Reads a decimal integer with its sign. -/
def decimal : Scan Int := do
  let negative ← sign
  let digits ← decimalDigits
  match fitting? negative (digitsValue 10 digits) with
  | some value => return value
  | none => failure

/-- Reads an integer. -/
def integer : Scan Int := do
  match (← get).take 2 with
  | ['0', 'x'] => based 'x' 16 isHexDigit
  | ['0', 'o'] => based 'o' 8 fun c => '0' ≤ c && c ≤ '7'
  | ['0', 'b'] => based 'b' 2 fun c => c = '0' || c = '1'
  | _ => decimal

/-- Reads the exponent of a float. -/
def exponent : Scan Int := do
  let _ ← satisfying fun c => c = 'e' || c = 'E'
  let negative ← sign
  let digits ← digitRun Char.isDigit
  let size : Int := digitsValue 10 digits
  return if negative then -size else size

/-- Reads a float with digits, which has a fraction or an exponent. -/
def digitFloat : Scan Binary64 := do
  let negative ← sign
  let whole ← decimalDigits
  let places ← maybe do
    char '.'
    digitRun Char.isDigit
  -- Without a fraction the exponent is what makes it a float.
  let power ← if places.isSome then maybe exponent else some <$> exponent
  let fraction := places.getD []
  let value := Binary64.ofDecimal negative (digitsValue 10 (whole ++ fraction))
    (power.getD 0 - fraction.length)
  -- Only an overflow to the positive side is refused.
  if value = .infinite false then failure else return value

/-- Reads infinity or the value that is not a number. -/
def specialFloat : Scan Binary64 := do
  let negative ← sign
  (do
    word ['i', 'n', 'f']
    return .infinite negative) <|>
  (do
    word ['n', 'a', 'n']
    return .notANumber)

end ContentClasses.Toml.Scan
