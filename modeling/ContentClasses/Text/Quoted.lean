import ContentClasses.Text.Glyphless

/-! Texts in double quotes as they stand in error messages, where every character can be told
apart. -/

namespace ContentClasses

/-- A character by its number, in hexadecimal between braces. -/
def numberedChar (c : Char) : List Char :=
  ['\\', 'u', '\x7b'] ++ Nat.toDigits 16 c.toNat ++ ['\x7d']

/-- A character as it stands between the quotes. -/
def quotedChar (c : Char) : List Char :=
  match c with
  | '\x00' => ['\\', '0']
  | '\t' => ['\\', 't']
  | '\r' => ['\\', 'r']
  | '\n' => ['\\', 'n']
  | '\\' => ['\\', '\\']
  | '\x22' => ['\\', '\x22']
  | _ => if isGlyphless c then numberedChar c else [c]

/-- A text in double quotes, with quotes, backslashes, controls and characters without glyph
escaped. -/
def quoted (text : String) : String :=
  String.ofList (['\x22'] ++ text.toList.flatMap quotedChar ++ ['\x22'])

end ContentClasses
