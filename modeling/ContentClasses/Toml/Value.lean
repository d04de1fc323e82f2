import ContentClasses.Association
import ContentClasses.Toml.DateTime
import ContentClasses.Toml.Numbers
import ContentClasses.Toml.Strings

/-! TOML values, the tables that dotted keys grow, and the reading of both. -/

namespace ContentClasses.Toml

/-- A TOML value. -/
inductive Value where
  | string (value : String)
  | integer (value : Int)
  | float (value : Binary64)
  | boolean (value : Bool)
  /-- A date or time by its text. -/
  | dateTime (text : String)
  | array (items : List Value)
  | table (entries : List (String × Value))
  deriving Inhabited

/-- How a table came to be, which decides what may be added to it. -/
inductive Origin where
  /-- By a header or as a value in braces. -/
  | defined
  /-- As part of the name in a header. -/
  | implied
  /-- As part of a dotted key. -/
  | dotted
  deriving DecidableEq, Repr

/-- A part of a document that is still growing. -/
inductive Node where
  | value (value : Value)
  | table (origin : Origin) (entries : List (String × Node))
  /-- Tables under one double-bracketed header, each of which was defined by it. -/
  | tables (items : List Node)
  deriving Inhabited

mutual

/-- The value that a finished part of a document stands for. -/
def Node.toValue : Node → Value
  | .value value => value
  | .table _ entries => .table (entryValues entries)
  | .tables items => .array (nodeValues items)

/-- The values of finished tables. -/
def nodeValues : List Node → List Value
  | [] => []
  | node :: rest => node.toValue :: nodeValues rest

/-- The entries of a finished table. -/
def entryValues : List (String × Node) → List (String × Value)
  | [] => []
  | (key, node) :: rest => (key, node.toValue) :: entryValues rest

end

/-- Changes the table under a node: the node itself, or the last of several tables. -/
def Node.changeTable (change : Origin → List (String × Node) → Option Node) : Node → Option Node
  | .value _ => none
  | .table origin entries => change origin entries
  | .tables items =>
    match items.getLast? with
    | some (.table origin entries) => do
      let changed ← change origin entries
      return .tables (items.dropLast ++ [changed])
    | _ => none

/-- Whether a node is one table that a header or braces defined. -/
def Node.isDefined : Node → Bool
  | .table origin _ => origin = .defined
  | _ => false

/-- Assigns a value under a dotted key of a table; tables on the way are made as the key asks. -/
def assign (value : Node) : (path : List String) → (key : String) → Origin →
    List (String × Node) → Option Node
  | [], key, origin, entries =>
    if (entries.lookup key).isSome then none
    else some (.table origin (Association.put key value entries))
  | step :: path, key, origin, entries => do
    let inner := (entries.lookup step).getD (.table .dotted [])
    -- Dotted keys lead through tables that no header defined, and end in one that such a key made.
    if inner.isDefined then none
    let changed ← inner.changeTable fun (made : Origin) within =>
      if path.isEmpty && made ≠ .dotted then none else assign value path key made within
    return .table origin (Association.put step changed entries)

/-- The number of containers that may be open at a time, and of parts that a key may have. -/
def maxDepth : Nat := 79

namespace Scan

/-- The characters of a key without quotes. -/
def isBareKey (c : Char) : Bool := c.isAlphanum || c = '_' || c = '-'

/-- Reads one part of a key. -/
def simpleKey : Scan String := do
  match ← peek with
  | some '\x22' => basic
  | some '\'' => literal
  | _ => do
    let name ← run isBareKey
    if name.isEmpty then failure else return String.ofList name

/-- Reads a part of a key with the blanks around it. -/
def spacedKey : Scan String := do
  blanks
  let part ← simpleKey
  blanks
  return part

/-- Reads a dotted key, as the parts before the last one and the last one. -/
def key : Scan (List String × String) := do
  let first ← spacedKey
  let rest ← many do
    char '.'
    spacedKey
  let parts := first :: rest
  if maxDepth < parts.length then failure
  return (parts.dropLast, parts.getLast?.getD first)

/-- Reads a key with the value assigned to it. -/
def pair (value : Scan Value) : Scan ((List String × String) × Value) := do
  let name ← key
  char '='
  blanks
  let content ← value
  return (name, content)

/-- Reads things with a separator between them. -/
def separated {α : Type} (scan : Scan α) (separator : Char) : Scan (List α) := do
  let first ← scan
  let rest ← many do
    char separator
    scan
  return first :: rest

/-- Reads the items of an array up to its end. -/
def arrayRest (value : Scan Value) : Scan (List Value) := do
  let item : Scan Value := do
    gap
    let content ← value
    gap
    return content
  let items ← maybe (separated item ',')
  if items.isSome then
    let _ ← maybe (char ',')
  gap
  char ']'
  return items.getD []

/-- The table in braces for its assignments, if they agree with each other. -/
def inlineTable? (pairs : List ((List String × String) × Value)) : Option Value := do
  let table ← pairs.foldlM (fun (table : Node) pair =>
    table.changeTable (assign (.value pair.2) pair.1.1 pair.1.2)) (.table .defined [])
  return table.toValue

/-- Reads the assignments of a table in braces up to its end. -/
def inlineRest (value : Scan Value) : Scan Value := do
  let entry : Scan ((List String × String) × Value) := do
    let read ← pair value
    blanks
    return read
  let pairs ← maybe (separated entry ',')
  blanks
  char '\x7d'
  match inlineTable? (pairs.getD []) with
  | some table => return table
  | none => failure

/-- Reads a value in which so many containers may be open at a time. -/
def valueWithin : (depth : Nat) → Scan Value
  | 0 => scalar
  | depth + 1 => do
    match ← peek with
    | some '[' => do
      let _ ← next
      return .array (← arrayRest (valueWithin depth))
    | some '\x7b' => do
      let _ ← next
      inlineRest (valueWithin depth)
    | _ => scalar
where
  scalar : Scan Value := do
    match ← peek with
    | some '\x22' | some '\'' => return .string (← string)
    | some 't' => do
      word ['t', 'r', 'u', 'e']
      return .boolean true
    | some 'f' => do
      word ['f', 'a', 'l', 's', 'e']
      return .boolean false
    | _ =>
      (do return .dateTime (← dateTime)) <|>
      (do return .float (← digitFloat)) <|>
      (do return .float (← specialFloat)) <|>
      (do return .integer (← integer))

/-- Reads a value. -/
def value : Scan Value := valueWithin maxDepth

end Scan

end ContentClasses.Toml
