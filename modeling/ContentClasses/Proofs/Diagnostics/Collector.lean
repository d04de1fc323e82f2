import ContentClasses.Diagnostics.Collector

/-! Reporting appends to a collector, and never changes its levels or what it already holds. -/

namespace ContentClasses.Diagnostics

/-- A collector after a list of findings was reported to it in order. -/
def reportAll (diagnostics : Diagnostics) (findings : List Finding) : Diagnostics :=
  findings.foldl report diagnostics

/-- Nothing reported changes nothing. -/
@[simp] theorem reportAll_nil (diagnostics : Diagnostics) :
    diagnostics.reportAll [] = diagnostics :=
  rfl

/-- The first finding of a list is reported before the others. -/
@[simp] theorem reportAll_cons (diagnostics : Diagnostics) (finding : Finding)
    (rest : List Finding) :
    diagnostics.reportAll (finding :: rest) = (diagnostics.report finding).reportAll rest :=
  rfl

/-- Findings may be reported in two parts. -/
@[simp] theorem reportAll_append (diagnostics : Diagnostics) (first second : List Finding) :
    diagnostics.reportAll (first ++ second) = (diagnostics.reportAll first).reportAll second :=
  List.foldl_append

/-- Reporting one finding appends its graded form, if the levels give it one. -/
theorem report_eq (diagnostics : Diagnostics) (finding : Finding) :
    diagnostics.report finding =
      { diagnostics with
        items := diagnostics.items ++ (finding.graded? diagnostics.levels).toList } := by
  -- A finding is either graded and kept or not graded at all.
  cases graded : finding.graded? diagnostics.levels with
  | none => simp [report, graded]
  | some item => simp [report, graded]

/-- Reporting appends the graded forms of all findings that are not ignored. -/
theorem reportAll_eq (diagnostics : Diagnostics) (findings : List Finding) :
    diagnostics.reportAll findings =
      { diagnostics with
        items := diagnostics.items ++
          findings.filterMap (Finding.graded? diagnostics.levels) } := by
  -- The levels stay the same along the way, so every finding is graded by the first ones.
  induction findings generalizing diagnostics with
  | nil => simp
  | cons finding rest ih =>
    rw [reportAll_cons, ih, report_eq]
    cases graded : finding.graded? diagnostics.levels with
    | none => simp [graded]
    | some item => simp [graded]

end ContentClasses.Diagnostics
