import ContentClasses.Diagnostics.Level

/-! Findings, the graded diagnostics made of them, and the collector that keeps those not ignored.
-/

namespace ContentClasses

/-- Something found about a content type or one of its elements. -/
structure Finding where
  kind : FindingKind
  /-- The codename of the content type. -/
  contentType : String
  /-- The codename of the element, if the finding is about one. -/
  element : Option String
  message : String
  deriving DecidableEq, Repr

/-- A finding with the severity it was collected at. -/
structure Diagnostic extends Finding where
  severity : Severity
  deriving DecidableEq, Repr

/-- A finding at the severity that the levels give its kind, or none if its kind is ignored. -/
def Finding.graded? (levels : Levels) (finding : Finding) : Option Diagnostic :=
  (levels.of finding.kind).severity?.map fun severity => { finding with severity }

namespace Diagnostic

/-- One line for a diagnostic: severity, identifier, place and message. -/
def display (item : Diagnostic) : String :=
  let place := match item.element with
    | some element => item.contentType ++ "." ++ element
    | none => item.contentType
  item.severity.display ++ "[" ++ item.kind.id ++ "] " ++ place ++ ": " ++ item.message

/-- Whether a diagnostic is an error. -/
def isError (item : Diagnostic) : Bool := item.severity = .error

end Diagnostic

/-- The diagnostics collected so far, with the levels that grade new findings. -/
structure Diagnostics where
  levels : Levels := {}
  items : List Diagnostic := []
  deriving DecidableEq, Repr, Inhabited

namespace Diagnostics

/-- Adds a finding at the end, unless its kind is ignored. -/
def report (diagnostics : Diagnostics) (finding : Finding) : Diagnostics :=
  match finding.graded? diagnostics.levels with
  | some item => { diagnostics with items := diagnostics.items ++ [item] }
  | none => diagnostics

/-- The collected errors, in order of report. -/
def errors (diagnostics : Diagnostics) : List Diagnostic :=
  diagnostics.items.filter Diagnostic.isError

/-- Whether an error was collected. -/
def hasErrors (diagnostics : Diagnostics) : Bool :=
  diagnostics.items.any Diagnostic.isError

/-- The collected diagnostics of one kind. -/
def ofKind (diagnostics : Diagnostics) (kind : FindingKind) : List Diagnostic :=
  diagnostics.items.filter (·.kind = kind)

/-- The displays of all errors in one line. -/
def errorSummary (diagnostics : Diagnostics) : String :=
  "; ".intercalate (diagnostics.errors.map Diagnostic.display)

end Diagnostics

end ContentClasses
