import ContentClasses.Proofs.Json.Outcome

/-! The grammar of JSON texts: which texts say the same, whatever blanks, escapes and digits they
are written with. -/

namespace ContentClasses.Json

/-- What a JSON text says. The content of a string is missing where half of a pair stands alone in
it, and a number is kept by its text. -/
inductive Form where
  | null
  | boolean (value : Bool)
  | number (text : List Char)
  | string (content : Option String)
  | list (items : List Form)
  | object (members : List (Option String × Form))
  deriving Inhabited

/-- A text of blanks only. -/
def Blank (gap : List Char) : Prop := ∀ c ∈ gap, Scan.isBlank c = true

/-- A text that may follow a value: the end, a blank, or what comes next in a container. -/
def EndsValue (rest : List Char) : Prop :=
  ∀ c ∈ rest.head?, Scan.isBlank c = true ∨ c = ',' ∨ c = ']' ∨ c = '\x7d'

/-- Four hexadecimal digits with their value. -/
structure HexDigits (digits : List Char) (code : Nat) : Prop where
  four : digits.length = 4
  value : Scan.hexNumber? digits = some code

/-- The character that two halves of a pair stand for. -/
def pairedChar (high low : Nat) : Char :=
  Char.ofNat (0x10000 + (high - 0xD800) * 0x400 + (low - 0xDC00))

/-- Texts between the quotes of a string, with the characters that they stand for. -/
inductive Spells : List Char → Option (List Char) → Prop where
  | done : Spells [] (some [])
  | plain {c : Char} {text : List Char} {content : Option (List Char)}
      (allowed : c ≠ '\x22' ∧ c ≠ '\\' ∧ 0x20 ≤ c.toNat) (rest : Spells text content) :
      Spells (c :: text) (content.map (c :: ·))
  | short {letter c : Char} {text : List Char} {content : Option (List Char)}
      (known : Scan.shortEscape? letter = some c) (rest : Spells text content) :
      Spells ('\\' :: letter :: text) (content.map (c :: ·))
  | numeric {digits text : List Char} {code : Nat} {content : Option (List Char)}
      (written : HexDigits digits code) (high : Scan.isHighSurrogate code = false)
      (low : Scan.isLowSurrogate code = false) (rest : Spells text content) :
      Spells ('\\' :: 'u' :: (digits ++ text)) (content.map (Char.ofNat code :: ·))
  | pair {first second text : List Char} {high low : Nat} {content : Option (List Char)}
      (opening : HexDigits first high) (closing : HexDigits second low)
      (isHigh : Scan.isHighSurrogate high = true) (isLow : Scan.isLowSurrogate low = true)
      (rest : Spells text content) :
      Spells ('\\' :: 'u' :: (first ++ '\\' :: 'u' :: (second ++ text)))
        (content.map (pairedChar high low :: ·))
  /-- The second half of a pair without the first. -/
  | lowAlone {digits text : List Char} {code : Nat} {content : Option (List Char)}
      (written : HexDigits digits code) (low : Scan.isLowSurrogate code = true)
      (rest : Spells text content) : Spells ('\\' :: 'u' :: (digits ++ text)) none
  /-- The first half of a pair without the second. -/
  | highAlone {digits text : List Char} {code : Nat} {content : Option (List Char)}
      (written : HexDigits digits code) (high : Scan.isHighSurrogate code = true)
      (alone : ∀ second low tail, text = '\\' :: 'u' :: (second ++ tail) → HexDigits second low →
        Scan.isLowSurrogate low = false)
      (rest : Spells text content) : Spells ('\\' :: 'u' :: (digits ++ text)) none

/-- Texts of decimal digits, at least one. -/
structure IsDigits (text : List Char) : Prop where
  filled : text ≠ []
  all : ∀ c ∈ text, c.isDigit = true

/-- What stands before the point of a number: no zero in front of other digits. -/
inductive IsWholePart : List Char → Prop where
  | zero : IsWholePart ['0']
  | digits {text : List Char} (digits : IsDigits text) (plain : text.head? ≠ some '0') :
      IsWholePart text

/-- What stands from the point of a number on, if it has one. -/
inductive IsFraction : List Char → Prop where
  | absent : IsFraction []
  | places {text : List Char} (digits : IsDigits text) : IsFraction ('.' :: text)

/-- The exponent of a number, if it has one. -/
inductive IsExponent : List Char → Prop where
  | absent : IsExponent []
  | power {letter : Char} {sign text : List Char} (marked : letter = 'e' ∨ letter = 'E')
      (signed : sign = [] ∨ sign = ['+'] ∨ sign = ['-']) (digits : IsDigits text) :
      IsExponent (letter :: (sign ++ text))

/-- The texts of numbers. -/
inductive IsNumber : List Char → Prop where
  | mk {sign whole places power : List Char} (signed : sign = [] ∨ sign = ['-'])
      (units : IsWholePart whole) (fraction : IsFraction places) (exponent : IsExponent power) :
      IsNumber (sign ++ (whole ++ (places ++ power)))

/-- A string between its quotes, with its content. -/
inductive WrittenString : Option String → List Char → Prop where
  | mk {text : List Char} {content : Option (List Char)} (spelled : Spells text content) :
      WrittenString (content.map String.ofList) ('\x22' :: (text ++ ['\x22']))

mutual

/-- The texts that say something, from their first character to their last one. -/
inductive Written : Form → List Char → Prop where
  | null : Written .null ['n', 'u', 'l', 'l']
  | yes : Written (.boolean true) ['t', 'r', 'u', 'e']
  | no : Written (.boolean false) ['f', 'a', 'l', 's', 'e']
  | number {text : List Char} (numeric : IsNumber text) : Written (.number text) text
  | string {content : Option String} {text : List Char} (written : WrittenString content text) :
      Written (.string content) text
  | emptyList {gap : List Char} (blank : Blank gap) : Written (.list []) ('[' :: (gap ++ [']']))
  | list {gap word text : List Char} {first : Form} {rest : List Form} (blank : Blank gap)
      (head : Written first word) (tail : WrittenItems rest text) :
      Written (.list (first :: rest)) ('[' :: (gap ++ (word ++ (text ++ [']']))))
  | emptyObject {gap : List Char} (blank : Blank gap) :
      Written (.object []) ('\x7b' :: (gap ++ ['\x7d']))
  | object {gap word text : List Char} {first : Option String × Form}
      {rest : List (Option String × Form)} (blank : Blank gap) (head : WrittenMember first word)
      (tail : WrittenMembers rest text) :
      Written (.object (first :: rest)) ('\x7b' :: (gap ++ (word ++ (text ++ ['\x7d']))))

/-- The texts of the items after the first one, up to the end of their list. -/
inductive WrittenItems : List Form → List Char → Prop where
  | done {gap : List Char} (blank : Blank gap) : WrittenItems [] gap
  | next {before after word text : List Char} {item : Form} {rest : List Form}
      (blankBefore : Blank before) (blankAfter : Blank after) (head : Written item word)
      (tail : WrittenItems rest text) :
      WrittenItems (item :: rest) (before ++ ',' :: (after ++ (word ++ text)))

/-- The texts of a key with its value. -/
inductive WrittenMember : Option String × Form → List Char → Prop where
  | mk {name word before after : List Char} {key : Option String} {value : Form}
      (named : WrittenString key name) (blankBefore : Blank before) (blankAfter : Blank after)
      (written : Written value word) :
      WrittenMember (key, value) (name ++ (before ++ ':' :: (after ++ word)))

/-- The texts of the members after the first one, up to the end of their object. -/
inductive WrittenMembers : List (Option String × Form) → List Char → Prop where
  | done {gap : List Char} (blank : Blank gap) : WrittenMembers [] gap
  | next {before after word text : List Char} {member : Option String × Form}
      {rest : List (Option String × Form)} (blankBefore : Blank before) (blankAfter : Blank after)
      (head : WrittenMember member word) (tail : WrittenMembers rest text) :
      WrittenMembers (member :: rest) (before ++ ',' :: (after ++ (word ++ text)))

end

/-- A whole text that says something, with blanks around it. -/
inductive IsDocument : Form → String → Prop where
  | mk {form : Form} {text : String} {before word after : List Char} (blankBefore : Blank before)
      (written : Written form word) (blankAfter : Blank after)
      (whole : text.toList = before ++ (word ++ after)) : IsDocument form text

section

variable {gap rest : List Char} {c : Char}

/-- Nothing at all is blank. -/
@[simp] theorem blank_nil : Blank [] := by
  simp [Blank]

/-- A text is blank if its first character and all others are. -/
@[simp] theorem blank_cons : Blank (c :: gap) ↔ Scan.isBlank c = true ∧ Blank gap := by
  simp [Blank]

/-- Blanks are passed over together. -/
theorem Blank.dropWhile_append (blank : Blank gap) (rest : List Char) :
    (gap ++ rest).dropWhile Scan.isBlank = rest.dropWhile Scan.isBlank :=
  List.dropWhile_append_of_pos blank

/-- A value may be the last thing in a text. -/
@[simp] theorem endsValue_nil : EndsValue [] := by
  simp [EndsValue]

/-- Whether a text may follow a value shows in its first character. -/
@[simp] theorem endsValue_cons :
    EndsValue (c :: rest) ↔ Scan.isBlank c = true ∨ c = ',' ∨ c = ']' ∨ c = '\x7d' := by
  simp [EndsValue]

/-- Blanks may follow a value if what comes after them may. -/
theorem EndsValue.blank_append (blank : Blank gap) (ends : EndsValue rest) :
    EndsValue (gap ++ rest) := by
  cases gap with
  | nil => exact ends
  | cons c gap => exact endsValue_cons.mpr (.inl (blank_cons.mp blank).1)

end

end ContentClasses.Json
