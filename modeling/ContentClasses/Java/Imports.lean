/-! Simple names for qualified types within one compilation unit, and the imports that they need. -/

namespace ContentClasses.Java

/-- Cuts a text at the last occurrence of a separator. -/
def cutAtLast (separator : Char) : List Char → Option (List Char × List Char)
  | [] => none
  | c :: rest =>
    -- A later occurrence, if there is one, wins over this one.
    match cutAtLast separator rest with
    | some (before, after) => some (c :: before, after)
    | none => if c = separator then some ([], rest) else none

/-- The last part of a qualified name. -/
def simpleName (qualified : String) : String :=
  match cutAtLast '.' qualified.toList with
  | some (_, simple) => String.ofList simple
  | none => qualified

/-- All of a qualified name before its last dot, or nothing if there is no dot. -/
def packageOf (qualified : String) : String :=
  match cutAtLast '.' qualified.toList with
  | some (package, _) => String.ofList package
  | none => ""

/-- The qualified name of a class in a package. -/
def qualify (package name : String) : String :=
  if package.isEmpty then name else package ++ "." ++ name

/-- The simple names in use in a compilation unit. -/
structure Imports where
  package : String
  /-- Classes of the package, which hide types of `java.lang` with their names. -/
  siblings : List String
  /-- Simple names with the qualified names that they stand for. -/
  bound : List (String × String)

namespace Imports

/-- The table for a new class, which owns its simple name. -/
def start (package className : String) (siblings : List String) : Imports :=
  ⟨package, siblings, [(className, qualify package className)]⟩

/-- The text by which the unit refers to a qualified name: the first name with a simple name has
it. -/
def reference (imports : Imports) (qualified : String) : String × Imports :=
  let simple := simpleName qualified
  if packageOf qualified = "java.lang" && imports.siblings.contains simple then (qualified, imports)
  else match imports.bound.lookup simple with
    | some holder => (if holder = qualified then simple else qualified, imports)
    | none => (simple, { imports with bound := imports.bound ++ [(simple, qualified)] })

/-- The texts for a list of qualified names, asked for in order. -/
def references (imports : Imports) : List String → List String × Imports
  | [] => ([], imports)
  | qualified :: rest =>
    let (text, next) := imports.reference qualified
    let (texts, final) := next.references rest
    (text :: texts, final)

/-- Whether a name has to be imported into the unit to be used by its simple name. -/
def needsImport (imports : Imports) (qualified : String) : Bool :=
  let package := packageOf qualified
  !package.isEmpty && package != "java.lang" && package != imports.package

/-- The qualified names to import, in order; the element annotation only where there are fields. -/
def lines (imports : Imports) (hasFields : Bool) (elementMark : String) : List String :=
  ((imports.bound.map (·.2)).filter fun qualified =>
    imports.needsImport qualified && (hasFields || qualified != elementMark)).mergeSort

end Imports

end ContentClasses.Java
