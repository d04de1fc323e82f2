import ContentClasses.Json.Value

/-! The written form of JSON values, over several lines with two blanks for each level. -/

namespace ContentClasses.Json

/-- A hexadecimal digit in lower case. -/
def hexDigit (value : Nat) : Char := Nat.digitChar value

/-- A character as it stands inside a string. -/
def stringChar (c : Char) : List Char :=
  match c with
  | '\x22' => ['\\', '\x22']
  | '\\' => ['\\', '\\']
  | '\x08' => ['\\', 'b']
  | '\x0c' => ['\\', 'f']
  | '\n' => ['\\', 'n']
  | '\r' => ['\\', 'r']
  | '\t' => ['\\', 't']
  | _ =>
    if c.toNat < 0x20 then ['\\', 'u', '0', '0', hexDigit (c.toNat / 16), hexDigit (c.toNat % 16)]
    else [c]

/-- A string between quotes, in which only quotes, backslashes and controls are escaped. -/
def writtenString (text : String) : List Char :=
  ['\x22'] ++ text.toList.flatMap stringChar ++ ['\x22']

/-- The line break before what stands at a level. -/
def lineBreak (level : Nat) : List Char := '\n' :: List.replicate (2 * level) ' '

mutual

/-- The written form of a value whose container stands at a level. -/
def Value.written (level : Nat) : Value → List Char
  | .null => "null".toList
  | .boolean value => (if value then "true" else "false").toList
  | .integer value => (toString value).toList
  | .float value => value.compact.toList
  | .string value => writtenString value
  | .list [] => ['[', ']']
  | .list (first :: rest) =>
    ['['] ++ lineBreak (level + 1) ++ first.written (level + 1) ++
      writtenItems (level + 1) rest ++ lineBreak level ++ [']']
  | .object [] => ['\x7b', '\x7d']
  | .object ((key, value) :: rest) =>
    ['\x7b'] ++ lineBreak (level + 1) ++ writtenString key ++ [':', ' '] ++
      value.written (level + 1) ++ writtenMembers (level + 1) rest ++ lineBreak level ++ ['\x7d']

/-- The written form of the items after the first one. -/
def writtenItems (level : Nat) : List Value → List Char
  | [] => []
  | item :: rest => [','] ++ lineBreak level ++ item.written level ++ writtenItems level rest

/-- The written form of the members after the first one. -/
def writtenMembers (level : Nat) : List (String × Value) → List Char
  | [] => []
  | (key, value) :: rest =>
    [','] ++ lineBreak level ++ writtenString key ++ [':', ' '] ++ value.written level ++
      writtenMembers level rest

end

/-- The written form of a whole value. -/
def Value.pretty (value : Value) : String := String.ofList (value.written 0)

end ContentClasses.Json
