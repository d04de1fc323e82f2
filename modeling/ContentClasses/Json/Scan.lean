import ContentClasses.Json.Problem

/-! Steps that read a JSON text from its front, and those that read blanks, literals, strings and
numbers. -/

namespace ContentClasses.Json

/-- A reading step: from the text that is left to a result, and to the text left after it. -/
def Scan (α : Type) : Type := List Char → Except Fault α × List Char

namespace Scan

/-- The step that reads nothing. -/
def done {α : Type} (value : α) : Scan α := fun rest => (.ok value, rest)

/-- One step after another, unless the first one fails. -/
def andThen {α β : Type} (scan : Scan α) (next : α → Scan β) : Scan β := fun rest =>
  match scan rest with
  | (.ok value, after) => next value after
  | (.error fault, after) => (.error fault, after)

instance : Monad Scan where
  pure := done
  bind := andThen

/-- Fails with a problem whose place depends on how the enclosing value ends. -/
def fail {α : Type} (problem : Problem) : Scan α := fun rest => (.error ⟨problem, none⟩, rest)

/-- Fails some bytes beyond what has been read. -/
def failBeyond {α : Type} (bytes : Nat) (problem : Problem) : Scan α := fun rest =>
  (.error ⟨problem, some ⟨rest.length, bytes⟩⟩, rest)

/-- Fails right after what has been read. -/
def failHere {α : Type} (problem : Problem) : Scan α := failBeyond 0 problem

/-- Fails one byte beyond what has been read, where there is one. -/
def failNext {α : Type} (problem : Problem) : Scan α := failBeyond 1 problem

/-- A step whose failure is placed where the step stopped, unless it has a place already. -/
def settled {α : Type} (scan : Scan α) : Scan α := fun rest =>
  match scan rest with
  | (.error ⟨problem, none⟩, after) => (.error ⟨problem, some ⟨after.length, 0⟩⟩, after)
  | result => result

/-- The body of a container and its end; after a failed body the end still counts for the place. -/
def enclosed {α : Type} (finish : Scan Unit) (body : Scan α) : Scan α := settled fun rest =>
  match body rest with
  | (.ok value, after) => finish.andThen (fun _ => done value) after
  | (.error fault, after) => (.error fault, (finish after).2)

/-- The text that is left. -/
def left : Scan (List Char) := fun rest => (.ok rest, rest)

/-- The next character, which stays unread. -/
def peek : Scan (Option Char) := fun rest => (.ok rest.head?, rest)

/-- Reads the next character, if there is one. -/
def advance : Scan Unit := fun rest => (.ok (), rest.drop 1)

/-- The characters that may stand between tokens. -/
def isBlank (c : Char) : Bool := c = ' ' || c = '\n' || c = '\t' || c = '\r'

/-- Reads blanks. -/
def skipBlank : Scan Unit := fun rest => (.ok (), rest.dropWhile isBlank)

/-- Reads the digits that come next, perhaps none. -/
def digits : Scan (List Char) := fun rest =>
  (.ok (rest.takeWhile Char.isDigit), rest.dropWhile Char.isDigit)

/-- The first character of the value that comes next, which stays unread. -/
def valueStart : Scan Char := do
  skipBlank
  match ← peek with
  | some c => pure c
  | none => failNext .endInValue

/-- Reads the rest of a literal such as `null`. -/
def letters : List Char → Scan Unit
  | [] => pure ()
  | letter :: rest => do
    match ← peek with
    | none => failHere .endInValue
    | some c =>
      if c = letter then do
        advance
        letters rest
      else failNext .expectedLiteral

/-- The value of a hexadecimal digit. -/
def hexValue? (c : Char) : Option Nat :=
  if '0' ≤ c && c ≤ '9' then some (c.toNat - '0'.toNat)
  else if 'a' ≤ c && c ≤ 'f' then some (c.toNat - 'a'.toNat + 10)
  else if 'A' ≤ c && c ≤ 'F' then some (c.toNat - 'A'.toNat + 10)
  else none

/-- The value of a run of hexadecimal digits. -/
def hexNumber? (text : List Char) : Option Nat :=
  text.foldl (fun value? c => do return 16 * (← value?) + (← hexValue? c)) (some 0)

/-- The number of bytes that characters take. -/
def byteLength (text : List Char) : Nat := text.foldl (fun count c => count + c.utf8Size) 0

/-- Reads the four digits of a numeric escape. -/
def hexEscape : Scan Nat := fun rest =>
  match hexNumber? (rest.take 4) with
  | some code =>
    if 4 ≤ rest.length then (.ok code, rest.drop 4) else failHere .endInString []
  | none =>
    -- The four digits are counted in bytes, so a wider character may be cut.
    if byteLength rest < 4 then failHere .endInString [] else failBeyond 4 .invalidEscape rest

/-- Whether a code is the first half of a pair. -/
def isHighSurrogate (code : Nat) : Bool := 0xD800 ≤ code && code ≤ 0xDBFF

/-- Whether a code is the second half of a pair. -/
def isLowSurrogate (code : Nat) : Bool := 0xDC00 ≤ code && code ≤ 0xDFFF

/-- Reads the letter that must follow the first half of a pair. -/
def pairLetter (letter : Char) : Scan Unit := do
  match ← peek with
  | none => failHere .endInString
  | some c => if c = letter then advance else failNext .unfinishedSurrogate

/-- Reads the digits of a numeric escape, and the second escape where two make one character. -/
def numericEscape : Scan Char := do
  let code ← hexEscape
  if isLowSurrogate code then failHere .loneSurrogate
  else if isHighSurrogate code then do
    pairLetter '\\'
    pairLetter 'u'
    let second ← hexEscape
    if isLowSurrogate second then
      pure (Char.ofNat (0x10000 + (code - 0xD800) * 0x400 + (second - 0xDC00)))
    else failHere .loneSurrogate
  else pure (Char.ofNat code)

/-- The character for the letter of a short escape. -/
def shortEscape? : Char → Option Char
  | '\x22' => some '\x22'
  | '\\' => some '\\'
  | '/' => some '/'
  | 'b' => some '\x08'
  | 'f' => some '\x0c'
  | 'n' => some '\n'
  | 'r' => some '\r'
  | 't' => some '\t'
  | _ => none

/-- Reads an escape after its backslash. -/
def escape : Scan Char := do
  match ← peek with
  | none => failHere .endInString
  | some 'u' => do
    advance
    numericEscape
  | some letter =>
    match shortEscape? letter with
    | some c => do
      advance
      pure c
    | none => failNext .invalidEscape

/-- Reads a string after its opening quote, in at most so many characters and escapes. -/
def stringWithin : (budget : Nat) → (read : List Char) → Scan String
  | 0, _ => failHere .endInString
  | budget + 1, read => do
    match ← peek with
    | none => failHere .endInString
    | some c => do
      advance
      if c = '\x22' then pure (String.ofList read.reverse)
      else if c = '\\' then do
        let escaped ← escape
        stringWithin budget (escaped :: read)
      else if c.toNat < 0x20 then failHere .controlCharacter
      else stringWithin budget (c :: read)

/-- Reads a string after its opening quote. -/
def stringRest : Scan String := do
  let rest ← left
  -- Each round reads at least one character, and the last one finds the end.
  stringWithin (rest.length + 1) []

/-- A number: whole where its text is whole and fits, and a fraction otherwise. -/
inductive Number where
  | whole (value : Int)
  | fraction (value : Binary64)
  deriving DecidableEq, Repr

/-- Adds decimal digits to a number as long as it stays below `2 ^ 64`, and leaves the rest. -/
def accumulate (value : Nat) : List Char → Nat × List Char
  | [] => (value, [])
  | digit :: rest =>
    let longer := value * 10 + (digit.toNat - '0'.toNat)
    if longer < 0x10000000000000000 then accumulate longer rest else (value, digit :: rest)

/-- Ten to a power, as a double-precision number. -/
def powerOfTen (exponent : Nat) : Binary64 := .ofDecimal false 1 exponent

/-- Scales a number by a power of ten in steps of at most 308 places, or finds it out of range. -/
def scaleByTen? : (budget : Nat) → Binary64 → Int → Option Binary64
  | 0, number, _ => some number
  | budget + 1, number, exponent =>
    if exponent.natAbs ≤ 308 then
      if 0 ≤ exponent then
        let scaled := number.times (powerOfTen exponent.natAbs)
        if scaled.isInfinite then none else some scaled
      else some (number.dividedBy (powerOfTen exponent.natAbs))
    else if number.isZero then some number
    else if 0 ≤ exponent then none
    else scaleByTen? budget (number.dividedBy (powerOfTen 308)) (exponent + 308)

/-- The fraction `significand * 10 ^ exponent` under a sign. -/
def fraction (negative : Bool) (significand : Nat) (exponent : Int) : Scan Number :=
  -- Two steps down from any significand below `2 ^ 64` reach zero.
  match scaleByTen? 4 (.ofRatio false significand 1) exponent with
  | some value => pure (.fraction (if negative then value.negated else value))
  | none => failHere .numberOutOfRange

/-- The greatest number that an exponent may spell. -/
def maxExponent : Nat := 0x7FFFFFFF

/-- The number of digits up to the one that takes an exponent beyond its bound, if one does. -/
def overflowAt? (value : Nat) : List Char → Option Nat
  | [] => none
  | digit :: rest =>
    let longer := value * 10 + (digit.toNat - '0'.toNat)
    if maxExponent < longer then some 1 else (overflowAt? longer rest).map (· + 1)

/-- Reads an exponent after its letter and finishes the number. -/
def exponentPart (negative : Bool) (significand : Nat) (start : Int) : Scan Number := do
  let sign ← peek
  if sign = some '+' || sign = some '-' then advance
  match ← peek with
  | none => failHere .endInValue
  | some c =>
    if !c.isDigit then failNext .invalidNumber
    else do
      let text ← digits
      match overflowAt? 0 text with
      | none =>
        let size : Int := (accumulate 0 text).1
        fraction negative significand (if sign = some '-' then start - size else start + size)
      | some count =>
        if significand = 0 || sign = some '-' then pure (.fraction (.zero negative))
        else fun rest =>
          -- The digits after the one too many are not read.
          (.error ⟨.numberOutOfRange, some ⟨rest.length + text.length - count, 0⟩⟩, rest)

/-- Finishes a number whose exponent so far is known. -/
def afterFraction (negative : Bool) (significand : Nat) (exponent : Int) : Scan Number := do
  match ← peek with
  | some 'e' | some 'E' => do
    advance
    exponentPart negative significand exponent
  | _ => fraction negative significand exponent

/-- The whole number for digits that all fit, or a fraction where the sign does not. -/
def wholeNumber (negative : Bool) (significand : Nat) : Number :=
  if !negative then .whole significand
  else if significand = 0 || 0x8000000000000000 < significand then
    .fraction (.ofRatio true significand 1)
  else .whole (-significand)

/-- Reads what follows the digits before the decimal point. -/
def afterDigits (negative : Bool) (text : List Char) : Scan Number := do
  let (significand, dropped) := accumulate 0 text
  match ← peek with
  | some '.' => do
    advance
    let places ← digits
    if places.isEmpty then do
      match ← peek with
      | some _ => failNext .invalidNumber
      | none => failNext .endInValue
    else
      let (longer, unused) := accumulate significand places
      let used : Int := (places.length : Int) - unused.length
      afterFraction negative longer (dropped.length - used)
  | some 'e' | some 'E' => afterFraction negative significand dropped.length
  | _ =>
    if dropped.isEmpty then pure (wholeNumber negative significand)
    else fraction negative significand dropped.length

/-- Reads a number after its sign. -/
def number (negative : Bool) : Scan Number := do
  match ← peek with
  | none => failHere .endInValue
  | some '0' => do
    advance
    match ← peek with
    | some c => if c.isDigit then failNext .invalidNumber else afterDigits negative ['0']
    | none => afterDigits negative ['0']
  | some c =>
    if c.isDigit then do
      let text ← digits
      afterDigits negative text
    else failNext .invalidNumber

/-- Reads a number with its sign. -/
def signedNumber : Scan Number := do
  match ← peek with
  | some '-' => do
    advance
    number true
  | _ => number false

end Scan

/-- Reads a whole text with a step that reads one value. -/
def readDocument {α : Type} (scan : Scan α) (text : String) : Except Error α :=
  let complete : Scan α := do
    let value ← scan
    Scan.skipBlank
    match ← Scan.peek with
    | some _ => Scan.failNext .trailingCharacters
    | none => pure value
  match (complete.settled text.toList).1 with
  | .ok value => .ok value
  | .error fault =>
    .error ⟨fault.problem, (fault.place.getD ⟨0, 0⟩).position text.toList⟩

end ContentClasses.Json
