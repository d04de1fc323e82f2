/-! The written form of TOML strings, in the plainest kind of quotes that a text allows. -/

namespace ContentClasses.Toml

/-- The length of the longest run of a character. -/
def longestRun (c : Char) (text : List Char) : Nat :=
  let step : Nat × Nat → Char → Nat × Nat := fun (current, longest) next =>
    let run := if next = c then current + 1 else 0
    (run, max longest run)
  (text.foldl step (0, 0)).2

/-- A hexadecimal digit in upper case. -/
def upperHex (value : Nat) : Char := (Nat.digitChar value).toUpper

/-- A control character by its number. -/
def numbered (c : Char) : List Char :=
  ['\\', 'u', '0', '0', upperHex (c.toNat / 16), upperHex (c.toNat % 16)]

/-- Whether a character can stand in a text only by an escape, whatever the quotes. -/
def isControl (c : Char) : Bool :=
  (c.toNat < 0x20 && c ≠ '\t' && c ≠ '\n') || c = '\x7f'

/-- A character other than a quote or a line feed between double quotes. -/
def basicChar (c : Char) : List Char :=
  match c with
  | '\x08' => ['\\', 'b']
  | '\t' => ['\\', 't']
  | '\x0c' => ['\\', 'f']
  | '\r' => ['\\', 'r']
  | '\\' => ['\\', '\\']
  | _ => if c.toNat < 0x20 || c = '\x7f' then numbered c else [c]

/-- A text on one line, between double quotes. -/
def basicLine (text : List Char) : List Char :=
  text.flatMap fun c =>
    if c = '\x22' then ['\\', '\x22'] else if c = '\n' then ['\\', 'n'] else basicChar c

/-- A text on several lines, in which every third quote of a run is escaped. -/
def basicLines : (quotes : Nat) → List Char → List Char
  | _, [] => []
  | quotes, c :: rest =>
    if c = '\x22' then
      if quotes = 2 then '\\' :: '\x22' :: basicLines 0 rest
      else '\x22' :: basicLines (quotes + 1) rest
    else if c = '\n' then '\n' :: basicLines 0 rest
    else basicChar c ++ basicLines 0 rest

/-- A text between three quotes on each side, after a line end of its own if it has several lines.
-/
def threefold (quote : Char) (text content : List Char) : List Char :=
  let quotes := [quote, quote, quote]
  quotes ++ (if text.contains '\n' then ['\n'] else []) ++ content ++ quotes

/-- A text on one line between double quotes. -/
def onOneLine (text : List Char) : List Char := ['\x22'] ++ basicLine text ++ ['\x22']

/-- The written form of a text. -/
def writtenText (text : List Char) : List Char :=
  let control := text.any isControl
  let backslash := text.contains '\\'
  let several := text.contains '\n'
  let doubles := longestRun '\x22' text
  let singles := longestRun '\'' text
  if !control && !backslash && doubles = 0 && !several then onOneLine text
  else if !control && singles = 0 && !several then ['\''] ++ text ++ ['\'']
  else if !control && !backslash && doubles ≤ 2 then threefold '\x22' text (basicLines 0 text)
  else if !control && singles ≤ 2 then threefold '\'' text text
  else if several then threefold '\x22' text (basicLines 0 text)
  else onOneLine text

/-- The written form of a list of texts, with each on a line of its own if there are several. -/
def writtenTexts (texts : List String) : List Char :=
  match texts with
  | [] => ['[', ']']
  | [only] => ['['] ++ writtenText only.toList ++ [']']
  | several =>
    ['[', '\n'] ++ several.flatMap (fun text =>
      [' ', ' ', ' ', ' '] ++ writtenText text.toList ++ [',', '\n']) ++ [']']

end ContentClasses.Toml
