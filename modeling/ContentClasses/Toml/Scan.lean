/-! Steps that read a TOML text from its front: blanks, line ends, comments and digits. -/

namespace ContentClasses.Toml

/-- A reading step: from the text that is left to a result and the text left after it, or to a
refusal. -/
abbrev Scan (α : Type) : Type := StateT (List Char) Option α

namespace Scan

/-- The next character, which stays unread. -/
def peek : Scan (Option Char) := do return (← get).head?

/-- Reads the next character, whatever it is. -/
def next : Scan Char := do
  match ← get with
  | c :: rest => do
    set rest
    return c
  | [] => failure

/-- Reads the next character if it is of a kind. -/
def satisfying (kind : Char → Bool) : Scan Char := do
  let c ← next
  if kind c then return c else failure

/-- Reads one given character. -/
def char (expected : Char) : Scan Unit := do
  let _ ← satisfying (· = expected)

/-- Reads a given word. -/
def word : List Char → Scan Unit
  | [] => pure ()
  | c :: rest => do
    char c
    word rest

/-- Reads all characters of a kind that come next, perhaps none. -/
def run (kind : Char → Bool) : Scan (List Char) := do
  let rest ← get
  set (rest.dropWhile kind)
  return rest.takeWhile kind

/-- Reads the same thing as often as it comes, at most so many times. -/
def repeated {α : Type} (scan : Scan α) : (budget : Nat) → Scan (List α)
  | 0 => pure []
  | budget + 1 =>
    (do
      let first ← scan
      let rest ← repeated scan budget
      return first :: rest) <|> pure []

/-- Reads the same thing, which is never empty, as often as it comes. -/
def many {α : Type} (scan : Scan α) : Scan (List α) := do
  let rest ← get
  repeated scan rest.length

/-- Reads something if it comes next. -/
def maybe {α : Type} (scan : Scan α) : Scan (Option α) :=
  (do return some (← scan)) <|> pure none

/-- The blanks within a line. -/
def isBlank (c : Char) : Bool := c = ' ' || c = '\t'

/-- Reads blanks within a line. -/
def blanks : Scan Unit := do
  let _ ← run isBlank

/-- Reads the end of a line, which may have a carriage return. -/
def newline : Scan Unit := char '\n' <|> word ['\r', '\n']

/-- The characters that comments and strings may hold besides quotes and backslashes. -/
def isVisible (c : Char) : Bool := c = '\t' || (' ' ≤ c && c ≠ '\x7f')

/-- Reads a comment up to the end of its line. -/
def comment : Scan Unit := do
  char '#'
  let _ ← run isVisible

/-- Reads the end of a line or of the text. -/
def lineEnd : Scan Unit := do
  if (← peek).isSome then newline

/-- Reads what may follow the last token of a line. -/
def lineRest : Scan Unit := do
  blanks
  let _ ← maybe comment
  lineEnd

/-- Reads blanks, line ends and comments between the items of a list. -/
def gap : Scan Unit := do
  blanks
  let _ ← many do
    let _ ← maybe comment
    newline
    blanks

/-- Reads as many digits of a kind as are wanted. -/
def exactly (kind : Char → Bool) : (count : Nat) → Scan (List Char)
  | 0 => pure []
  | count + 1 => do
    let first ← satisfying kind
    let rest ← exactly kind count
    return first :: rest

end Scan

/-- Digits in base sixteen. -/
def isHexDigit (c : Char) : Bool :=
  c.isDigit || ('a' ≤ c && c ≤ 'f') || ('A' ≤ c && c ≤ 'F')

/-- The value of a digit in a base up to sixteen. -/
def digitValue (c : Char) : Nat :=
  if c.isDigit then c.toNat - '0'.toNat
  else if 'a' ≤ c then c.toNat - 'a'.toNat + 10
  else c.toNat - 'A'.toNat + 10

/-- The value of a run of digits. -/
def digitsValue (base : Nat) (digits : List Char) : Nat :=
  digits.foldl (fun value digit => base * value + digitValue digit) 0

end ContentClasses.Toml
