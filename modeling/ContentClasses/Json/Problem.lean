import ContentClasses.Found

/-! What can be wrong with a JSON text, and where in the text it is. -/

namespace ContentClasses.Json

/-- What is wrong with a text or with a value in it. -/
inductive Problem where
  | endInList
  | endInObject
  | endInString
  | endInValue
  | expectedColon
  | expectedItemOrEnd
  | expectedMemberOrEnd
  | expectedLiteral
  | expectedValue
  | controlCharacter
  | invalidEscape
  | invalidNumber
  | numberOutOfRange
  | keyNotString
  | loneSurrogate
  | unfinishedSurrogate
  | trailingComma
  | trailingCharacters
  | nestedTooDeeply
  | invalidType (found : Found) (expected : String)
  | invalidValue (found : Found) (expected : String)
  | invalidLength (length : Nat) (expected : String)
  | unknownVariant (name : String) (known : List String)
  | missingField (name : String)
  | duplicateField (name : String)
  | duplicateElement (codename : String)
  deriving DecidableEq, Repr

/-- How values found in a JSON text are worded. -/
def foundWording : FoundWording := ⟨"null", Binary64.compact⟩

/-- A name between backticks. -/
def ticked (name : String) : String := "`" ++ name ++ "`"

/-- The names that a choice offers. -/
def offered : List String → String
  | [] => "there are no variants"
  | [only] => "expected " ++ ticked only
  | [first, second] => "expected " ++ ticked first ++ " or " ++ ticked second
  | many => "expected one of " ++ ", ".intercalate (many.map ticked)

/-- The text of a problem, without its place. -/
def Problem.message : Problem → String
  | .endInList => "EOF while parsing a list"
  | .endInObject => "EOF while parsing an object"
  | .endInString => "EOF while parsing a string"
  | .endInValue => "EOF while parsing a value"
  | .expectedColon => "expected `:`"
  | .expectedItemOrEnd => "expected `,` or `]`"
  | .expectedMemberOrEnd => "expected `,` or `\x7d`"
  | .expectedLiteral => "expected ident"
  | .expectedValue => "expected value"
  | .controlCharacter => "control character (\\u0000-\\u001F) found while parsing a string"
  | .invalidEscape => "invalid escape"
  | .invalidNumber => "invalid number"
  | .numberOutOfRange => "number out of range"
  | .keyNotString => "key must be a string"
  | .loneSurrogate => "lone leading surrogate in hex escape"
  | .unfinishedSurrogate => "unexpected end of hex escape"
  | .trailingComma => "trailing comma"
  | .trailingCharacters => "trailing characters"
  | .nestedTooDeeply => "recursion limit exceeded"
  | .invalidType found expected =>
    "invalid type: " ++ found.describe foundWording ++ ", expected " ++ expected
  | .invalidValue found expected =>
    "invalid value: " ++ found.describe foundWording ++ ", expected " ++ expected
  | .invalidLength length expected =>
    "invalid length " ++ toString length ++ ", expected " ++ expected
  | .unknownVariant name known => "unknown variant " ++ ticked name ++ ", " ++ offered known
  | .missingField name => "missing field " ++ ticked name
  | .duplicateField name => "duplicate field " ++ ticked name
  | .duplicateElement codename => "duplicate element codename " ++ ticked codename

/-- A place in a text, told by what is left of the text there. -/
structure Place where
  /-- The number of characters left. -/
  remaining : Nat
  /-- The number of bytes of these that count as read already. -/
  ahead : Nat
  deriving DecidableEq, Repr

/-- A line and a column, the latter in bytes. -/
structure Position where
  line : Nat := 1
  column : Nat := 0
  deriving DecidableEq, Repr

namespace Position

/-- The position after one more character. -/
def after (position : Position) (c : Char) : Position :=
  if c = '\n' then ⟨position.line + 1, 0⟩
  else ⟨position.line, position.column + c.utf8Size⟩

/-- The position some bytes further, which may be inside a character but not beyond the end. -/
def ahead (position : Position) : (bytes : Nat) → List Char → Position
  | _, [] => position
  | bytes, c :: rest =>
    if bytes < c.utf8Size then ⟨position.line, position.column + bytes⟩
    else (position.after c).ahead (bytes - c.utf8Size) rest

end Position

/-- The position of a place in a text. -/
def Place.position (place : Place) (text : List Char) : Position :=
  let consumed := text.length - place.remaining
  ((text.take consumed).foldl Position.after {}).ahead place.ahead (text.drop consumed)

/-- A problem, with its place once that is known. -/
structure Fault where
  problem : Problem
  place : Option Place
  deriving DecidableEq, Repr

/-- Why a text cannot be read. -/
structure Error where
  problem : Problem
  position : Position
  deriving DecidableEq, Repr

/-- The text of an error. -/
def Error.message (error : Error) : String :=
  error.problem.message ++ " at line " ++ toString error.position.line ++
    " column " ++ toString error.position.column

end ContentClasses.Json
