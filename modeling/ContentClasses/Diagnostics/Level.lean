/-! Kinds of findings, and the levels at which each kind is taken. -/

namespace ContentClasses

/-- What can be found while classes are built. -/
inductive FindingKind where
  /-- An element whose tag has no type was skipped. -/
  | unsupportedElement
  /-- Two elements of a type have the same member name. -/
  | fieldNameCollision
  /-- A codename is not snake case. -/
  | malformedIdentifier
  /-- Two content types have the same class name. -/
  | classNameCollision
  deriving DecidableEq, Repr

/-- The short identifier that displays of a finding carry. -/
def FindingKind.id : FindingKind → String
  | .unsupportedElement => "C001"
  | .fieldNameCollision => "C002"
  | .malformedIdentifier => "C003"
  | .classNameCollision => "C004"

/-- How severe a collected finding is. -/
inductive Severity where
  | warning
  | error
  deriving DecidableEq, Repr

/-- The word for a severity in displays. -/
def Severity.display : Severity → String
  | .warning => "warning"
  | .error => "error"

/-- What is done with a kind of finding. -/
inductive Level where
  | error
  | warn
  | ignore
  deriving DecidableEq, Repr

/-- The severity that a level gives, or none where findings are dropped. -/
def Level.severity? : Level → Option Severity
  | .error => some .error
  | .warn => some .warning
  | .ignore => none

/-- The level of every kind of finding. -/
structure Levels where
  unsupportedElement : Level := .ignore
  fieldNameCollision : Level := .warn
  malformedIdentifier : Level := .warn
  classNameCollision : Level := .error
  deriving DecidableEq, Repr, Inhabited

/-- The level of one kind of finding. -/
def Levels.of (levels : Levels) : FindingKind → Level
  | .unsupportedElement => levels.unsupportedElement
  | .fieldNameCollision => levels.fieldNameCollision
  | .malformedIdentifier => levels.malformedIdentifier
  | .classNameCollision => levels.classNameCollision

end ContentClasses
