import ContentClasses.Toml.Scan

/-! The four kinds of TOML strings, read. -/

namespace ContentClasses.Toml.Scan

/-- Whether a code stands for a character. -/
def isScalar (code : Nat) : Bool := code < 0xD800 || (0xE000 ≤ code && code < 0x110000)

/-- Reads the number of a numeric escape, in so many digits. -/
def numericEscape (count : Nat) : Scan Char := do
  let digits ← exactly isHexDigit count
  let code := digitsValue 16 digits
  if isScalar code then return Char.ofNat code else failure

/-- Reads an escape after its backslash. -/
def escape : Scan Char := do
  match ← next with
  | 'b' => return '\x08'
  | 't' => return '\t'
  | 'n' => return '\n'
  | 'f' => return '\x0c'
  | 'r' => return '\r'
  | '\x22' => return '\x22'
  | '\\' => return '\\'
  | 'u' => numericEscape 4
  | 'U' => numericEscape 8
  | _ => failure

/-- Reads a basic string after its opening quote, in at most so many characters and escapes. -/
def basicWithin : (budget : Nat) → (read : List Char) → Scan String
  | 0, _ => failure
  | budget + 1, read => do
    let c ← next
    if c = '\x22' then return String.ofList read.reverse
    else if c = '\\' then do
      let escaped ← escape
      basicWithin budget (escaped :: read)
    else if isVisible c then basicWithin budget (c :: read)
    else failure

/-- Reads a basic string. -/
def basic : Scan String := do
  char '\x22'
  basicWithin ((← get).length + 1) []

/-- Reads a literal string, which has no escapes. -/
def literal : Scan String := do
  char '\''
  let content ← run fun c => isVisible c && c ≠ '\''
  char '\''
  return String.ofList content

/-- Reads a backslash at the end of a line, with all white space up to the text that goes on. -/
def lineJoint : Scan Unit := do
  blanks
  newline
  let _ ← many (newline <|> (do let _ ← satisfying isBlank))

/-- The number of quotes that end a string of several lines when one more than two come together,
and the number of them that belong to the string. -/
def closing? (count : Nat) : Option Nat :=
  if 3 ≤ count && count ≤ 5 then some (count - 3) else none

/-- Reads a string of several lines after its opening quotes, in at most so many steps. -/
def longWithin (quote : Char) (escapes : Bool) : (budget : Nat) → (read : List Char) → Scan String
  | 0, _ => failure
  | budget + 1, read => do
    match ← peek with
    | none => failure
    | some c =>
      if c = quote then do
        let quotes ← run (· = quote)
        if quotes.length < 3 then longWithin quote escapes budget (quotes ++ read)
        else match closing? quotes.length with
          | some inner => return String.ofList (List.replicate inner quote ++ read).reverse
          | none => failure
      else if c = '\\' && escapes then do
        let _ ← next
        let joined ← maybe lineJoint
        if joined.isSome then longWithin quote escapes budget read
        else do
          let escaped ← escape
          longWithin quote escapes budget (escaped :: read)
      else if isVisible c then do
        let _ ← next
        longWithin quote escapes budget (c :: read)
      else do
        -- Either kind of line end stands for a line feed.
        newline
        longWithin quote escapes budget ('\n' :: read)

/-- Reads a string of several lines, whose first line end does not count if it comes at once. -/
def long (quote : Char) (escapes : Bool) : Scan String := do
  word [quote, quote, quote]
  let _ ← maybe newline
  longWithin quote escapes ((← get).length + 1) []

/-- Reads a string of any kind. -/
def string : Scan String := do
  match (← get).take 3 with
  | ['\x22', '\x22', '\x22'] => long '\x22' true
  | ['\'', '\'', '\''] => long '\'' false
  | '\'' :: _ => literal
  | _ => basic

end ContentClasses.Toml.Scan
