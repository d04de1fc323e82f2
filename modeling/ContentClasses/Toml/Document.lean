import ContentClasses.Toml.Value

/-! TOML documents: their lines, and the table that the lines build together. -/

namespace ContentClasses.Toml

/-- What a line of a document says. -/
inductive Line where
  /-- The assignments that follow are to a table. -/
  | header (path : List String) (key : String)
  /-- The assignments that follow are to one more table of several under a name. -/
  | tableHeader (path : List String) (key : String)
  | assignment (path : List String) (key : String) (value : Value)

namespace Scan

/-- Reads a line with content. -/
def line : Scan Line := do
  match (← get).take 2 with
  | ['[', '['] => do
    word ['[', '[']
    let (path, last) ← key
    word [']', ']']
    lineRest
    return .tableHeader path last
  | '[' :: _ => do
    char '['
    let (path, last) ← key
    char ']'
    lineRest
    return .header path last
  | _ => do
    let ((path, last), content) ← pair value
    lineRest
    return .assignment path last content

/-- Reads the lines that are left, in at most so many steps. -/
def linesWithin : (budget : Nat) → Scan (List Line)
  | 0 => failure
  | budget + 1 => do
    blanks
    match ← peek with
    | none => return []
    | some '#' => do
      comment
      lineEnd
      linesWithin budget
    | some c =>
      if c = '\n' || c = '\r' then do
        newline
        linesWithin budget
      else do
        let first ← line
        let rest ← linesWithin budget
        return first :: rest

end Scan

/-- Changes the table at the end of a path, where missing tables are made as a header's name asks.
-/
def changeAt (change : Origin → List (String × Node) → Option Node) :
    (path : List String) → Origin → List (String × Node) → Option Node
  | [], origin, entries => change origin entries
  | step :: path, origin, entries => do
    let inner := (entries.lookup step).getD (.table .implied [])
    let changed ← inner.changeTable (changeAt change path)
    return .table origin (Association.put step changed entries)

/-- Opens a table under a key, which no line may have made before except as part of a header's
name. -/
def openTable (key : String) (origin : Origin) (entries : List (String × Node)) : Option Node :=
  match entries.lookup key with
  | none => some (.table origin (Association.put key (.table .defined []) entries))
  | some (.table .implied inner) =>
    some (.table origin (Association.put key (.table .defined inner) entries))
  | some _ => none

/-- Opens one more table under a key that may have only such tables. -/
def openNextTable (key : String) (origin : Origin) (entries : List (String × Node)) : Option Node :=
  let opened : Node := .table .defined []
  match entries.lookup key with
  | none => some (.table origin (Association.put key (.tables [opened]) entries))
  | some (.tables items) =>
    some (.table origin (Association.put key (.tables (items ++ [opened])) entries))
  | some _ => none

/-- A document under construction, with the path of the table that assignments go to. -/
structure Draft where
  root : Node := .table .defined []
  current : List String := []

/-- Changes the table at the end of a path from the root. -/
def Draft.change (draft : Draft) (path : List String)
    (change : Origin → List (String × Node) → Option Node) : Option Node :=
  draft.root.changeTable (changeAt change path)

/-- Adds what a line says. -/
def Draft.add (draft : Draft) : Line → Option Draft
  | .header path key => do
    let root ← draft.change path (openTable key)
    return { root, current := path ++ [key] }
  | .tableHeader path key => do
    let root ← draft.change path (openNextTable key)
    return { root, current := path ++ [key] }
  | .assignment path key value => do
    let root ← draft.change draft.current (assign (.value value) path key)
    return { draft with root }

/-- The lines of a text, which may begin with a byte order mark. -/
def readLines (text : String) : Option (List Line) :=
  let content := match text.toList with
    | '\uFEFF' :: rest => rest
    | all => all
  -- Every step reads at least one character, and the last one finds the end.
  (Scan.linesWithin (content.length + 1) content).map (·.1)

/-- The entries of the document in a text, or none if the text is not in the format. -/
def readDocument (text : String) : Option (List (String × Value)) := do
  let lines ← readLines text
  let draft ← lines.foldlM Draft.add {}
  match draft.root.toValue with
  | .table entries => return entries
  | _ => none

end ContentClasses.Toml
