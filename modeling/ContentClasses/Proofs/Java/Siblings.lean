import ContentClasses.Proofs.Java.Source

/-! What a unit takes from the other classes of its package: which of the names that it resolves are
types of `java.lang` with the name of one of them, and nothing else. -/

namespace ContentClasses.Java

/-- Two lists of class names hide the same types of `java.lang` among some qualified names. -/
def HideAlike (names siblings others : List String) : Prop :=
  ∀ name ∈ names, packageOf name = "java.lang" →
    (simpleName name ∈ others ↔ simpleName name ∈ siblings)

namespace Imports

variable {imports : Imports} {siblings others names : List String} {qualified : String}

/-- The same table among other classes of the package. -/
def among (imports : Imports) (siblings : List String) : Imports :=
  { imports with siblings }

/-- A new table among other classes is the new table of the class among these. -/
@[simp] theorem among_start (package className : String) (siblings others : List String) :
    (start package className siblings).among others = start package className others :=
  rfl

/-- The lines are read off the entries and the package, whatever the other classes are. -/
@[simp] theorem lines_among (imports : Imports) (others : List String) (hasFields : Bool)
    (mark : String) : (imports.among others).lines hasFields mark = imports.lines hasFields mark :=
  rfl

/-- A name that is hidden among both lists of classes or among neither has the same text, and leaves
the same entries. -/
theorem reference_among (alike : (imports.among others).hides qualified ↔ imports.hides qualified) :
    (imports.among others).reference qualified =
      ((imports.reference qualified).1, (imports.reference qualified).2.among others) := by
  by_cases hidden : imports.hides qualified
  · rw [reference_hidden hidden, reference_hidden (alike.mpr hidden)]
  · have shown : ¬ (imports.among others).hides qualified := fun other => hidden (alike.mp other)
    -- Apart from what they hide, the tables have the same entries.
    have entries : (imports.among others).bound = imports.bound := rfl
    cases found : imports.bound.lookup (simpleName qualified) with
    | some holder =>
      rw [reference_taken hidden found, reference_taken shown (entries ▸ found)]
    | none =>
      rw [reference_free hidden found, reference_free shown (entries ▸ found)]
      rfl

/-- Lists of classes that hide the same of some names give these the same texts in order, and leave
the same entries. -/
theorem references_among (alike : HideAlike names imports.siblings others) :
    (imports.among others).references names =
      ((imports.references names).1, (imports.references names).2.among others) := by
  induction names generalizing imports with
  | nil => rfl
  | cons first rest ih =>
    have now : (imports.among others).hides first ↔ imports.hides first :=
      and_congr_right fun builtIn => alike first List.mem_cons_self builtIn
    -- A reference leaves the classes of the package as they are.
    have later : HideAlike rest (imports.reference first).2.siblings others := by
      rw [(imports.grows_reference first).siblings_eq]
      exact fun name member => alike name (List.mem_cons_of_mem first member)
    rw [references_cons, references_cons, reference_among now, ih later]

end Imports

variable {spec : ClassSpec} {package : String} {profile : Profile} {siblings others : List String}

/-- All names that a unit uses are resolved for it. -/
theorem usedNames_subset : profile.usedNames spec ⊆ profile.resolvedNames spec := by
  -- The two lists hold the same names in another order.
  intro name used
  rw [Profile.usedNames] at used
  rw [Profile.resolvedNames, Profile.fieldNames]
  simp only [List.mem_cons, List.mem_flatMap] at used ⊢
  grind

/-- The final tables of a unit differ in the other classes only. -/
theorem unitImports_among (alike : HideAlike (profile.resolvedNames spec) siblings others) :
    unitImports spec package profile others =
      (unitImports spec package profile siblings).among others := by
  rw [unitImports, unitImports, ← Imports.among_start package spec.name siblings others,
    Imports.references_among alike]

/-- A unit is the same among all classes that hide the same of the names resolved for it. -/
theorem renderClass_among (alike : HideAlike (profile.resolvedNames spec) siblings others) :
    renderClass spec package profile others = renderClass spec package profile siblings := by
  -- The import lines come from the table, and the two tables differ in their siblings only.
  have lines : importLines spec package profile others =
      importLines spec package profile siblings := by
    rw [importLines, unitImports_among alike, Imports.lines_among, importLines]
  have texts : ∀ name ∈ profile.usedNames spec,
      nameText spec package profile others name = nameText spec package profile siblings name := by
    intro name used
    have resolved := usedNames_subset used
    -- The final table hides what the new one hides.
    have same : (unitImports spec package profile siblings).siblings = siblings :=
      (Imports.grows_references _ _).siblings_eq
    have now : ((unitImports spec package profile siblings).among others).hides name ↔
        (unitImports spec package profile siblings).hides name := by
      rw [Imports.hides, Imports.hides, same]
      exact and_congr_right fun builtIn => alike name resolved builtIn
    rw [nameText, unitImports_among alike, Imports.reference_among now, nameText]
  -- With the lines and the texts equal, the units are.
  rw [renderClass_eq, renderClass_eq, lines, unitText_congr _ texts]

end ContentClasses.Java
