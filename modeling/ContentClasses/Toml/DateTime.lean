import ContentClasses.Toml.Scan

/-! Dates and times of TOML, read and written again in their one usual form. -/

namespace ContentClasses.Toml

/-- A number in at least so many digits. -/
def padded (width value : Nat) : String :=
  let digits := Nat.toDigits 10 value
  String.ofList (List.replicate (width - digits.length) '0' ++ digits)

/-- The number of days in a month. -/
def daysIn (year month : Nat) : Nat :=
  if month = 2 then
    if year % 4 = 0 && (year % 100 ≠ 0 || year % 400 = 0) then 29 else 28
  else if month = 4 || month = 6 || month = 9 || month = 11 then 30
  else 31

namespace Scan

/-- Reads a number of so many digits within bounds. -/
def field (width low high : Nat) : Scan Nat := do
  let digits ← exactly Char.isDigit width
  let value := digitsValue 10 digits
  if low ≤ value && value ≤ high then return value else failure

/-- Reads a date. -/
def date : Scan String := do
  let year ← field 4 0 9999
  char '-'
  let month ← field 2 1 12
  char '-'
  let day ← field 2 1 (daysIn year month)
  return padded 4 year ++ "-" ++ padded 2 month ++ "-" ++ padded 2 day

/-- Reads the fraction of a second, of which nine digits count and zeros at the end do not. -/
def secondFraction : Scan String := do
  char '.'
  let first ← satisfying Char.isDigit
  let rest ← run Char.isDigit
  let kept := (((first :: rest).take 9).reverse.dropWhile (· = '0')).reverse
  return if kept.isEmpty then "" else "." ++ String.ofList kept

/-- Reads a time of day. -/
def time : Scan String := do
  let hour ← field 2 0 23
  char ':'
  let minute ← field 2 0 59
  char ':'
  let second ← field 2 0 60
  let fraction ← maybe secondFraction
  return padded 2 hour ++ ":" ++ padded 2 minute ++ ":" ++ padded 2 second ++ fraction.getD ""

/-- Reads the distance from universal time; none at all counts as one ahead. -/
def offset : Scan String := do
  let c ← next
  if c = 'Z' || c = 'z' then return "Z"
  else if c = '+' || c = '-' then do
    let hours ← field 2 0 23
    char ':'
    let minutes ← field 2 0 59
    let ahead := c = '+' || hours + minutes = 0
    return (if ahead then "+" else "-") ++ padded 2 hours ++ ":" ++ padded 2 minutes
  else failure

/-- Reads a date, a time, or both with or without an offset. -/
def dateTime : Scan String :=
  (do
    let day ← date
    let clock ← maybe do
      let _ ← satisfying fun c => c = 'T' || c = 't' || c = ' '
      let clock ← time
      let distance ← maybe offset
      return "T" ++ clock ++ distance.getD ""
    return day ++ clock.getD "") <|> time

end Scan

end ContentClasses.Toml
