import ContentClasses.Diagnostics.Collector
import ContentClasses.Json.Reader

/-! Reading diagnostics from JSON, and the names of their parts. -/

namespace ContentClasses

open Json

/-- The names of the kinds of findings. -/
def findingNames : List (String × FindingKind) := [
  ("UnsupportedElement", .unsupportedElement), ("FieldNameCollision", .fieldNameCollision),
  ("MalformedIdentifier", .malformedIdentifier), ("ClassNameCollision", .classNameCollision)]

/-- The names of the severities. -/
def severityNames : List (String × Severity) := [("Warning", .warning), ("Error", .error)]

/-- The names of the levels. -/
def levelNames : List (String × Level) := [("error", .error), ("warn", .warn), ("ignore", .ignore)]

/-- Reads a collected diagnostic. -/
def readDiagnostic : Scan Diagnostic :=
  Scan.record "DiagnosticItem" [
      .of "code" .required (Scan.choice findingNames) fun kind item => { item with kind },
      .of "severity" .required (Scan.choice severityNames) fun severity item =>
        { item with severity },
      .of "content_type" .required Scan.text fun contentType item => { item with contentType },
      .of "element" .listed (Scan.optional Scan.text) fun element item => { item with element },
      .of "message" .required Scan.text fun message item => { item with message }]
    { kind := .unsupportedElement, contentType := "", element := none, message := ""
      severity := .warning }

end ContentClasses
