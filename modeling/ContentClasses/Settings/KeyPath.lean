import ContentClasses.Settings.Layer

/-! Keys that are paths into tables and lists, and the setting of what they lead to. -/

namespace ContentClasses

/-- A step from a setting into a part of it. -/
inductive KeyStep where
  | key (name : String)
  | index (position : Int)
  deriving DecidableEq, Repr

/-- A path from a table to a part of it. -/
structure KeyPath where
  first : String
  steps : List KeyStep := []
  deriving DecidableEq, Repr

namespace KeyPath

/-- The characters of a name in a path. -/
def isNameChar (c : Char) : Bool := c.isAlphanum || c = ' ' || c = '_' || c = '-'

/-- A position with the blanks that may stand around it. -/
def position? (text : List Char) : Option Int :=
  let trimmed := ((text.dropWhile (· = ' ')).reverse.dropWhile (· = ' ')).reverse
  let (negative, digits) := match trimmed with
    | '-' :: digits => (true, digits)
    | digits => (false, digits)
  if digits.isEmpty || !digits.all Char.isDigit then none
  else
    let size := digits.foldl (fun value digit => 10 * value + (digit.toNat - '0'.toNat)) 0
    if negative then if size ≤ 0x8000000000000000 then some (-size) else none
    else if size < 0x8000000000000000 then some size else none

/-- The steps in a text after the first name of a path, in at most so many steps. -/
def stepsWithin : (budget : Nat) → List Char → Option (List KeyStep)
  | _, [] => some []
  | 0, _ => none
  | budget + 1, '.' :: rest =>
    let name := rest.takeWhile isNameChar
    if name.isEmpty then none
    else do
      let steps ← stepsWithin budget (rest.dropWhile isNameChar)
      return .key (String.ofList name) :: steps
  | budget + 1, '[' :: rest =>
    match rest.dropWhile (· ≠ ']') with
    | [] => none
    | _ :: after => do
      let position ← position? (rest.takeWhile (· ≠ ']'))
      let steps ← stepsWithin budget after
      return .index position :: steps
  | _ + 1, _ => none

/-- The path that a key stands for; a key that is no path is a name as a whole. -/
def ofKey (key : String) : KeyPath :=
  let text := key.toList
  let first := text.takeWhile isNameChar
  match stepsWithin text.length (text.dropWhile isNameChar) with
  | some steps => if first.isEmpty then ⟨key, []⟩ else ⟨String.ofList first, steps⟩
  | none => ⟨key, []⟩

/-- The items of a list with enough room for a position, and that position counted from the front.
-/
def roomFor (items : List Setting) (position : Int) : List Setting × Nat :=
  let index := if 0 ≤ position then position.toNat else items.length - position.natAbs
  (items ++ List.replicate (index + 1 - items.length) .absent, index)

/-- Changes the part of a setting that steps lead to, where missing parts are made. -/
def changeAt (change : Setting → Setting) : List KeyStep → Setting → Setting
  | [], setting => change setting
  | .key name :: rest, setting =>
    let (entries, origin) := setting.asTable
    let inner := (entries.lookup name).getD .absent
    .table (Association.put name (changeAt change rest inner) entries) origin
  | .index position :: rest, setting =>
    let (items, origin) := setting.asList
    let (items, index) := roomFor items position
    .list (items.modify index (changeAt change rest)) origin

/-- Puts a setting over a part of another one. -/
def setPart (value : Setting) : KeyStep → Setting → Setting
  | .key name, setting =>
    let (entries, origin) := setting.asTable
    .table (value.onto name entries) origin
  | .index position, setting =>
    let (items, origin) := setting.asList
    let (items, index) := roomFor items position
    .list (items.set index value) origin

/-- Puts a setting over the part of a table that a path leads to. -/
def set (path : KeyPath) (value : Setting) (entries : List (String × Setting)) :
    List (String × Setting) :=
  match path.steps.getLast? with
  | none => value.onto path.first entries
  | some last =>
    let inner := (entries.lookup path.first).getD .absent
    Association.put path.first (changeAt (setPart value last) path.steps.dropLast inner) entries

end KeyPath

/-- Puts the settings of a later source, whose keys are paths, over those of earlier ones. -/
def layered (source : List (String × Setting)) (entries : List (String × Setting)) :
    List (String × Setting) :=
  source.foldl (fun entries (key, value) => (KeyPath.ofKey key).set value entries) entries

end ContentClasses
