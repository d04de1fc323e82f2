import ContentClasses.Json.Scan

/-! Passing over a JSON value that nobody asked for, with a check of its grammar only. -/

namespace ContentClasses.Json

/-- A container whose end has not been read yet. -/
inductive Frame where
  | list
  | object
  deriving DecidableEq, Repr

/-- The character that ends a container. -/
def Frame.close : Frame → Char
  | .list => ']'
  | .object => '\x7d'

namespace Scan

/-- Passes over the rest of a string. -/
def skipStringWithin : (budget : Nat) → Scan Unit
  | 0 => failHere .endInString
  | budget + 1 => do
    match ← peek with
    | none => failHere .endInString
    | some c =>
      if c = '\x22' then advance
      else if c = '\\' then do
        advance
        match ← peek with
        | none => failHere .endInString
        | some 'u' => do
          advance
          -- Halves of pairs may stand alone in a string that nobody reads.
          let _ ← hexEscape
          skipStringWithin budget
        | some letter =>
          if (shortEscape? letter).isSome then do
            advance
            skipStringWithin budget
          else failNext .invalidEscape
      else if c.toNat < 0x20 then failHere .controlCharacter
      else do
        advance
        skipStringWithin budget

/-- Passes over a string after its opening quote. -/
def skipString : Scan Unit := do
  let rest ← left
  skipStringWithin (rest.length + 1)

/-- Passes over the exponent of a number, if it has one. -/
def skipExponent : Scan Unit := do
  let letter ← peek
  if letter = some 'e' || letter = some 'E' then do
    advance
    let sign ← peek
    if sign = some '+' || sign = some '-' then advance
    match ← peek with
    | some c =>
      if c.isDigit then do
        let _ ← digits
        pure ()
      else failNext .invalidNumber
    | none => failHere .invalidNumber

/-- Passes over a number after its sign. -/
def skipNumber : Scan Unit := do
  match ← peek with
  | none => failHere .invalidNumber
  | some c =>
    if !c.isDigit then failNext .invalidNumber
    else do
      if c = '0' then do
        advance
        let next ← peek
        if next.any Char.isDigit then failNext .invalidNumber
      else do
        let _ ← digits
      if (← peek) = some '.' then do
        advance
        let places ← digits
        if places.isEmpty then failNext .invalidNumber
      skipExponent

/-- Passes over a value that is no container, or opens one. -/
def skipStart : Scan (Option Frame) := do
  match ← valueStart with
  | 'n' => do
    advance
    letters ['u', 'l', 'l']
    pure none
  | 't' => do
    advance
    letters ['r', 'u', 'e']
    pure none
  | 'f' => do
    advance
    letters ['a', 'l', 's', 'e']
    pure none
  | '\x22' => do
    advance
    skipString
    pure none
  | '[' => do
    advance
    pure (some .list)
  | '\x7b' => do
    advance
    pure (some .object)
  | '-' => do
    advance
    skipNumber
    pure none
  | c =>
    if c.isDigit then do
      skipNumber
      pure none
    else failNext .expectedValue

/-- Passes over a key and the colon after it. -/
def skipKey : Scan Unit := do
  skipBlank
  match ← peek with
  | none => failNext .endInObject
  | some '\x22' => do
    advance
    skipString
    skipBlank
    match ← peek with
    | none => failNext .endInObject
    | some ':' => advance
    | some _ => failNext .expectedColon
  | some _ => failNext .keyNotString

/-- Passes over the ends of finished containers, up to the value that comes next inside an open one.
No frames are open at the end. -/
def skipEnds : (comma : Bool) → List Frame → Scan (List Frame)
  | _, [] => pure []
  | comma, frame :: outer => do
    skipBlank
    match ← peek with
    | none => failNext (match frame with
        | .list => .endInList
        | .object => .endInObject)
    | some c =>
      if c = ',' && comma then do
        advance
        pure (frame :: outer)
      else if c = frame.close then do
        advance
        skipEnds true outer
      else if comma then failNext (match frame with
        | .list => .expectedItemOrEnd
        | .object => .expectedMemberOrEnd)
      else pure (frame :: outer)

/-- Passes over values until no container is open. -/
def skipWithin : (budget : Nat) → List Frame → Scan Unit
  | 0, _ => failHere .expectedValue
  | budget + 1, frames => do
    let opened ← skipStart
    let pending ← match opened with
      | some frame => skipEnds false (frame :: frames)
      | none => skipEnds true frames
    match pending with
    | [] => pure ()
    | .object :: _ => do
      skipKey
      skipWithin budget pending
    | .list :: _ => skipWithin budget pending

/-- Passes over one value, however deeply it is nested. -/
def skipValue : Scan Unit := do
  let rest ← left
  -- Every round reads at least one character of a value.
  skipWithin (rest.length + 1) []

end Scan

end ContentClasses.Json
