import ContentClasses.Settings.KeyPath

/-! Settings in environment variables. -/

namespace ContentClasses.Environment

/-- What the names of variables with settings begin with, in lower case. -/
def opening : List Char := "codegen__".toList

/-- A name in which every two underscores in a row are a dot. -/
def dotted : List Char → List Char
  | '_' :: '_' :: rest => '.' :: dotted rest
  | c :: rest => c :: dotted rest
  | [] => []

/-- The key of the setting that a variable holds, if it holds one. -/
def settingKey? (given : String) : Option String :=
  let name := given.toList.map lowerKeyChar
  if opening.isPrefixOf name then some (String.ofList (dotted (name.drop opening.length))) else none

/-- The integer that a text spells with an optional sign, if it fits into 64 bits. -/
def integer? (text : List Char) : Option Int :=
  let (negative, digits) := match text with
    | '-' :: digits => (true, digits)
    | '+' :: digits => (false, digits)
    | digits => (false, digits)
  if digits.isEmpty || !digits.all Char.isDigit then none
  else Toml.Scan.fitting? negative (Toml.digitsValue 10 digits)

/-- The power of ten that a text after the digits of a number spells. -/
def power? : List Char → Option Int
  | [] => some 0
  | letter :: text =>
    if letter = 'e' || letter = 'E' then
      let (negative, digits) := match text with
        | '-' :: digits => (true, digits)
        | '+' :: digits => (false, digits)
        | digits => (false, digits)
      if digits.isEmpty || !digits.all Char.isDigit then none
      else
        let size : Int := Toml.digitsValue 10 digits
        some (if negative then -size else size)
    else none

/-- The number that a text without sign spells, with digits on at least one side of its point. -/
def unsignedFloat? (negative : Bool) (text : List Char) : Option Binary64 :=
  let lower := text.map Char.toLower
  if lower = "inf".toList || lower = "infinity".toList then some (.infinite negative)
  else if lower = "nan".toList then some .notANumber
  else
    let whole := text.takeWhile Char.isDigit
    let (places, rest) := match text.dropWhile Char.isDigit with
      | '.' :: rest => (rest.takeWhile Char.isDigit, rest.dropWhile Char.isDigit)
      | rest => ([], rest)
    if whole.isEmpty && places.isEmpty then none
    else (power? rest).map fun power =>
      .ofDecimal negative (Toml.digitsValue 10 (whole ++ places)) (power - places.length)

/-- The number that a text spells. -/
def float? : List Char → Option Binary64
  | '-' :: text => unsignedFloat? true text
  | '+' :: text => unsignedFloat? false text
  | text => unsignedFloat? false text

/-- What settings from the environment say of their origin. -/
def origin : String := "the environment"

/-- The key whose texts are lists with commas. -/
def listKey : String := "codegen.naming.acronyms"

/-- The setting that a text gives under a key: a truth value, a number, a list or the text itself.
-/
def setting (key text : String) : Setting :=
  let chars := text.toList
  let lower := chars.map Char.toLower
  if lower = "true".toList then .scalar (.boolean true) (some origin)
  else if lower = "false".toList then .scalar (.boolean false) (some origin)
  else match integer? chars with
    | some value => .scalar (.integer value) (some origin)
    | none =>
      match float? chars with
      | some value => .scalar (.float value) (some origin)
      | none =>
        if key = listKey then
          let items := (chars.splitOn ',').map String.ofList
          .list (items.map fun item => .scalar (.text item) (some origin)) (some origin)
        else .scalar (.text text) (some origin)

/-- The settings in variables. -/
def settings (environment : List (String × String)) : List (String × Setting) :=
  environment.filterMap fun (name, text) =>
    (settingKey? name).map fun key => (key, setting key text)

end ContentClasses.Environment
