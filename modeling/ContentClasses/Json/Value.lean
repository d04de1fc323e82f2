import ContentClasses.Json.Reader

/-! JSON values of any shape. -/

namespace ContentClasses.Json

/-- A JSON value, whose objects keep their members in the order of the text. -/
inductive Value where
  | null
  | boolean (value : Bool)
  | integer (value : Int)
  | float (value : Binary64)
  | string (value : String)
  | list (items : List Value)
  | object (members : List (String × Value))
  deriving Inhabited

/-- How a value is named where another one was expected. -/
def Value.found : Value → Found
  | .null => .nothing
  | .boolean value => .boolean value
  | .integer value => .integer value
  | .float value => .float value
  | .string value => .text value
  | .list _ => .list
  | .object _ => .table

/-- The number of containers that may be open at a time. -/
def maxDepth : Nat := 127

namespace Scan

/-- Reads a value that is no container, given its first character. -/
def scalar (start : Char) : Scan Value := do
  match start with
  | 'n' => do
    advance
    letters ['u', 'l', 'l']
    pure .null
  | 't' => do
    advance
    letters ['r', 'u', 'e']
    pure (.boolean true)
  | 'f' => do
    advance
    letters ['a', 'l', 's', 'e']
    pure (.boolean false)
  | '\x22' => do
    advance
    let value ← stringRest
    pure (.string value)
  | c =>
    if c = '-' || c.isDigit then do
      match ← signedNumber with
      | .whole value => pure (.integer value)
      | .fraction value => pure (.float value)
    else failNext .expectedValue

/-- Reads one member of an object and puts it after those already read. -/
def valueMember (scan : Scan Value) (key : String) (read : List (String × Value)) :
    Scan (List (String × Value)) := do
  colon
  let value ← scan
  pure (read ++ [(key, value)])

/-- Reads a value in which so many containers may be open at a time. -/
def valueWithin : (depth : Nat) → Scan Value
  | 0 => do
    let start ← valueStart
    if start = '[' || start = '\x7b' then failNext .nestedTooDeeply else scalar start
  | depth + 1 => do
    let start ← valueStart
    if start = '[' then do
      let items ← list (valueWithin depth)
      pure (.list items)
    else if start = '\x7b' then
      object "a map" (valueMember (valueWithin depth)) [] fun read => pure (.object read)
    else scalar start

end Scan

end ContentClasses.Json
