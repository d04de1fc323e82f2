import ContentClasses.Model.Build
import ContentClasses.Proofs.Java.Source

/-! Within a unit every qualified name has one text that no other name shares, and what a simple
name stands for is hidden by nothing else but the import of a class whose own name has a dot. -/

namespace ContentClasses.Java

/-- A simple name has no dot. -/
theorem not_mem_simpleName (qualified : String) : '.' ∉ (simpleName qualified).toList := by
  by_cases dotted : '.' ∈ qualified.toList
  · -- Read from the back, the first dot is the one at which the name is cut.
    obtain ⟨after, before, reversed, last⟩ :=
      List.eq_append_cons_of_mem (List.mem_reverse.mpr dotted)
    have whole : qualified.toList = before.reverse ++ '.' :: after.reverse := by
      simpa using congrArg List.reverse reversed
    have plain : '.' ∉ after.reverse := by simpa using last
    rw [simpleName, whole, cutAtLast_append_cons _ plain, String.toList_ofList]
    exact plain
  · rw [simpleName_plain dotted]
    exact dotted

/-- A name with a dot is not its own simple name. -/
theorem simpleName_ne_of_dotted {qualified : String} (dotted : '.' ∈ qualified.toList) :
    simpleName qualified ≠ qualified := by
  -- A simple name has no dot.
  intro same
  have plain := not_mem_simpleName qualified
  rw [same] at plain
  exact plain dotted

namespace Imports

variable {imports : Imports} {names : List String} {name : String}

/-- What is asked for at any point is answered by the text of the final table. -/
theorem references_texts (imports : Imports) (names : List String) :
    (imports.references names).1 =
      names.map fun name => ((imports.references names).2.reference name).1 := by
  induction names generalizing imports with
  | nil => rfl
  | cons first rest ih =>
    -- The table only grows behind the first name, so its text is settled already.
    have grown := (imports.reference first).2.grows_references rest
    rw [references_cons, ih, List.map_cons, reference_settled grown]

/-- A name that was asked for is written by its simple name if it holds that, and else in full. -/
theorem reference_asked (asked : name ∈ names) :
    let later := (imports.references names).2
    ((later.reference name).1 = simpleName name ∧ ¬ later.hides name ∧
        later.bound.lookup (simpleName name) = some name) ∨
      (later.reference name).1 = name := by
  intro later
  -- A name that is hidden when all are asked for is written in full.
  by_cases hidden : later.hides name
  · right
    rw [reference_hidden hidden]
  · have shown : ¬ imports.hides name := by
      rwa [(imports.grows_references names).hides_iff] at hidden
    -- Being asked for leaves the simple name with a holder, this one or an earlier one.
    obtain ⟨holder, found⟩ := lookup_references asked shown
    rw [reference_taken hidden found]
    by_cases held : holder = name
    · left
      subst held
      exact ⟨if_pos rfl, hidden, found⟩
    · right
      exact if_neg held

/-- A name with a dot that is written by its simple name holds that. -/
theorem holds_of_reference (asked : name ∈ names) (dotted : '.' ∈ name.toList)
    (written : ((imports.references names).2.reference name).1 = simpleName name) :
    ¬ (imports.references names).2.hides name ∧
      (imports.references names).2.bound.lookup (simpleName name) = some name := by
  rcases reference_asked asked with ⟨-, shown, held⟩ | full
  · exact ⟨shown, held⟩
  · -- A name in full has a dot, which no simple name has.
    rw [written] at full
    exact absurd full (simpleName_ne_of_dotted dotted)

/-- Two names with dots that were asked for have different texts. -/
theorem reference_injective {left right : String} (askedLeft : left ∈ names)
    (askedRight : right ∈ names) (dottedLeft : '.' ∈ left.toList)
    (dottedRight : '.' ∈ right.toList)
    (same : ((imports.references names).2.reference left).1 =
      ((imports.references names).2.reference right).1) : left = right := by
  -- Of two texts in different forms, exactly one has a dot.
  rcases @reference_asked imports names left askedLeft with ⟨shortLeft, -, heldLeft⟩ | fullLeft <;>
    rcases @reference_asked imports names right askedRight with
      ⟨shortRight, -, heldRight⟩ | fullRight
  · -- A simple name has one holder.
    rw [shortLeft, shortRight] at same
    rw [same, heldRight] at heldLeft
    exact (Option.some.inj heldLeft).symm
  · rw [shortLeft, fullRight] at same
    exact absurd (same ▸ dottedRight) (not_mem_simpleName left)
  · rw [fullLeft, shortRight] at same
    exact absurd (same ▸ dottedLeft) (not_mem_simpleName right)
  · rwa [fullLeft, fullRight] at same

/-- A holder that a reference adds is found under its simple name. -/
theorem lookup_of_mem_holders_reference {holder : String}
    (held : holder ∈ (imports.reference name).2.holders) :
    holder ∈ imports.holders ∨
      (imports.reference name).2.bound.lookup (simpleName holder) = some holder := by
  obtain ⟨same, -⟩ | ⟨free, added⟩ := imports.reference_table name
  · rw [same] at held
    exact .inl held
  · rcases mem_holders_reference held with before | rfl
    · exact .inl before
    · -- The simple name was free, so the new entry is the first one for it.
      right
      rw [added]
      simp [List.lookup_append, free]

/-- Every holder that a list of names adds is found under its simple name. -/
theorem lookup_of_mem_holders_references {holder : String}
    (held : holder ∈ (imports.references names).2.holders) :
    holder ∈ imports.holders ∨
      (imports.references names).2.bound.lookup (simpleName holder) = some holder := by
  induction names generalizing imports with
  | nil => exact .inl held
  | cons first rest ih =>
    rcases ih held with earlier | found
    · -- What the first name added is still found when all are asked for.
      rcases lookup_of_mem_holders_reference earlier with before | found
      · exact .inl before
      · exact .inr ((grows_references _ rest).lookup found)
    · exact .inr found

section

variable {package className : String} {siblings : List String}

/-- The class keeps its simple name whatever is asked for. -/
theorem lookup_className (package className : String) (siblings names : List String) :
    ((start package className siblings).references names).2.bound.lookup className =
      some (qualify package className) :=
  (grows_references _ names).lookup (by simp [start])

/-- A name that is written by the name of the class is that of the class. -/
theorem eq_qualify_of_reference (asked : name ∈ names) (dotted : '.' ∈ name.toList)
    (written : (((start package className siblings).references names).2.reference name).1 =
      simpleName name)
    (own : simpleName name = className) : name = qualify package className := by
  -- The class is the first holder, and a simple name has only one.
  have held := (holds_of_reference asked dotted written).2
  rw [own, lookup_className] at held
  exact (Option.some.inj held).symm

/-- An import line with the simple name of a `java.lang` type that holds it is that of the class
itself, whose name then has a dot. -/
theorem eq_qualify_of_mem_lines {hasFields : Bool} {mark line : String} (asked : name ∈ names)
    (dotted : '.' ∈ name.toList) (builtIn : packageOf name = "java.lang")
    (written : (((start package className siblings).references names).2.reference name).1 =
      simpleName name)
    (imported : line ∈ ((start package className siblings).references names).2.lines
      hasFields mark)
    (same : simpleName line = simpleName name) :
    line = qualify package className ∧ '.' ∈ className.toList := by
  have grown := (start package className siblings).grows_references names
  obtain ⟨held, needed, -⟩ := mem_lines.mp imported
  rcases lookup_of_mem_holders_references held with own | found
  · obtain rfl : line = qualify package className := by simpa [holders, start] using own
    -- A class without dot is in the package of the unit, and needs no import.
    refine ⟨rfl, Decidable.byContradiction fun plain => ?_⟩
    exact not_needsImport_qualify grown.package_eq plain needed
  · -- The name itself holds its simple name, and it needs no import.
    rw [same, (holds_of_reference asked dotted written).2] at found
    obtain rfl := Option.some.inj found
    exact absurd builtIn (needsImport_iff.mp needed).2.1

end

/-- The texts for names that are asked for in order in the unit of a class tell them apart. -/
structure Unambiguous (package className : String) (siblings names : List String) (later : Imports)
    (text : String → String) : Prop where
  /-- Every name has the same text whenever it is asked for. -/
  settled : (start package className siblings).references names = (names.map text, later)
  /-- A text is the name in full or its simple name. -/
  either : ∀ name ∈ names, text name = name ∨ text name = simpleName name
  /-- No two names have the same text. -/
  apart : ∀ left ∈ names, ∀ right ∈ names, text left = text right → left = right
  /-- The simple name of the class stands for the class only. -/
  own : ∀ name ∈ names, text name = simpleName name → text name = className →
    name = qualify package className
  /-- A type of `java.lang` is written by its simple name only where no class of the package has
  that, and where it is found under it. -/
  visible : ∀ name ∈ names, packageOf name = "java.lang" → text name = simpleName name →
    simpleName name ∉ siblings ∧ (simpleName name = className → package = "java.lang") ∧
      later.bound.lookup (simpleName name) = some name
  /-- The only import that can bring in another type by that name is the one of the class itself,
  if its name has a dot. -/
  captured : ∀ name ∈ names, packageOf name = "java.lang" → text name = simpleName name →
    ∀ hasFields mark, ∀ line ∈ later.lines hasFields mark, simpleName line = simpleName name →
      line = qualify package className ∧ '.' ∈ className.toList

/-- References to qualified names are unambiguous, in whatever order and however often they are
asked for. -/
theorem references_unambiguous (package className : String) (siblings : List String)
    (dotted : ∀ name ∈ names, '.' ∈ name.toList) :
    ∃ later text, Unambiguous package className siblings names later text := by
  refine ⟨((start package className siblings).references names).2,
    fun name => (((start package className siblings).references names).2.reference name).1,
    ?_, ?_, ?_, ?_, ?_, ?_⟩
  · -- The texts are those that the final table gives.
    exact Prod.ext (references_texts _ names) rfl
  · -- A name is written in full or by its simple name.
    intro name asked
    rcases reference_asked asked with ⟨short, -⟩ | full
    · exact .inr short
    · exact .inl full
  · -- Two names with one text would hold the same simple name.
    intro left askedLeft right askedRight same
    exact reference_injective askedLeft askedRight (dotted left askedLeft)
      (dotted right askedRight) same
  · intro name asked short own
    exact eq_qualify_of_reference asked (dotted name asked) short (short.symm.trans own)
  · -- A short name is neither hidden by a sibling nor taken by the class.
    intro name asked builtIn short
    obtain ⟨shown, held⟩ := holds_of_reference asked (dotted name asked) short
    refine ⟨fun sibling => ?_, fun own => ?_, held⟩
    · rw [(grows_references _ names).hides_iff] at shown
      exact shown ⟨builtIn, sibling⟩
    · -- The class is found under its own name, so this type is the class.
      have whole := eq_qualify_of_reference asked (dotted name asked) short own
      have plain : '.' ∉ className.toList := own ▸ not_mem_simpleName name
      rw [whole, packageOf_qualify plain] at builtIn
      exact builtIn
  · -- An import with the same simple name would be a second holder of it.
    intro name asked builtIn short hasFields mark line imported same
    exact eq_qualify_of_mem_lines asked (dotted name asked) builtIn short imported same

/-- References stay unambiguous among a class that owns the simple name of a type, another one that
hides a type of `java.lang`, and two types with one simple name. -/
theorem references_unambiguous_clashes :
    let names := ["java.lang.String", "com.kenticocloud.delivery.Asset", "java.util.List",
      "org.other.List", "java.lang.Double", "a.b.Asset", "java.util.List"]
    (∀ name ∈ names, '.' ∈ name.toList) ∧
    ((start "a.b" "Asset" ["Asset", "String"]).references names).1 =
      ["java.lang.String", "com.kenticocloud.delivery.Asset", "List", "org.other.List", "Double",
        "Asset", "List"] ∧
    ∃ later text, Unambiguous "a.b" "Asset" ["Asset", "String"] names later text := by
  intro names
  have dotted : ∀ name ∈ names, '.' ∈ name.toList := by decide
  exact ⟨dotted, by decide +kernel, references_unambiguous "a.b" "Asset" ["Asset", "String"] dotted⟩

/-- A class whose name has a dot imports itself, and hides a type of `java.lang` that its unit
writes by the same simple name. -/
theorem references_captured :
    let package := "com.example.models"
    let spec := ({} : Naming).build ⟨"x._string", none, [⟨"title", "text", none⟩]⟩
    let imports := (start package spec.name [spec.name]).references ["java.lang.String"]
    spec.name = "X.String" ∧ imports.1 = ["String"] ∧
    (¬ ∀ line ∈ imports.2.lines true "com.kenticocloud.delivery.ElementMapping",
      simpleName line ≠ simpleName "java.lang.String") ∧
    renderClass spec package {} [spec.name] =
      "package com.example.models;\n\n" ++
      "import com.example.models.X.String;\n" ++
      "import com.kenticocloud.delivery.ContentItemMapping;\n" ++
      "import com.kenticocloud.delivery.ElementMapping;\n\n" ++
      documentation generatedNotice ++
      "@ContentItemMapping(\x22x._string\x22)\n" ++
      "public class X.String \x7b\n" ++
      "  @ElementMapping(\x22title\x22)\n  String title;\n\n" ++
      "  public String getTitle() \x7b\n    return title;\n  \x7d\n\n" ++
      "  public void setTitle(String title) \x7b\n    this.title = title;\n  \x7d\n\x7d\n" := by
  -- The second part of the name of the class is taken for its simple name.
  intro package spec imports
  refine ⟨by decide +kernel, by decide +kernel, fun plain => ?_, ?_⟩
  · have line : "com.example.models.X.String" ∈
        imports.2.lines true "com.kenticocloud.delivery.ElementMapping" := by decide +kernel
    exact plain _ line (by decide +kernel)
  · -- The names to import stand in the table in increasing order already.
    have sorted : importLines spec package {} [spec.name] =
        ["com.example.models.X.String", "com.kenticocloud.delivery.ContentItemMapping",
          "com.kenticocloud.delivery.ElementMapping"] := by
      have held : ((unitImports spec package {} [spec.name]).bound.map (·.2)).filter (fun name =>
          (unitImports spec package {} [spec.name]).needsImport name &&
            ((!spec.fields.isEmpty) || name != ({} : Profile).annotations.element)) =
          ["com.example.models.X.String", "com.kenticocloud.delivery.ContentItemMapping",
            "com.kenticocloud.delivery.ElementMapping"] := by decide +kernel
      rw [importLines, lines, held]
      exact List.mergeSort_of_pairwise (by decide +kernel)
    -- With the lines of imports known, the unit is put together.
    rw [renderClass_eq, sorted]
    decide +kernel

end Imports

end ContentClasses.Java
