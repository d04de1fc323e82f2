import ContentClasses.Java.Source
import ContentClasses.Proofs.Java.Imports

/-! A unit imports the names that it uses by their simple names and that are not in scope anyway,
but for the annotation on a class without fields where that is the one for elements too. -/

namespace ContentClasses.Java

namespace Profile

/-- The qualified names in a type, in the order in which they are written. -/
def typeNames (profile : Profile) : TypeDescriptor → List String
  | .scalar type => [profile.scalarName type]
  | .reference target => [profile.domainName target]
  | .listOf item => [profile.types.list, profile.domainName item]

/-- The text for a type under given texts for qualified names. -/
def writtenType (profile : Profile) (text : String → String) : TypeDescriptor → String
  | .scalar type => text (profile.scalarName type)
  | .reference target => text (profile.domainName target)
  | .listOf item => text profile.types.list ++ "<" ++ text (profile.domainName item) ++ ">"

/-- The qualified names in the types of all fields. -/
def fieldNames (profile : Profile) (fields : List FieldSpec) : List String :=
  fields.flatMap fun field => profile.typeNames field.type

/-- The qualified names that are resolved for a unit, in order, whether there are fields or not. -/
def resolvedNames (profile : Profile) (spec : ClassSpec) : List String :=
  profile.annotations.contentType :: profile.annotations.element :: profile.fieldNames spec.fields

/-- The qualified names that a unit uses: the class has one annotation, and each field has the other
one and a type. -/
def usedNames (profile : Profile) (spec : ClassSpec) : List String :=
  profile.annotations.contentType ::
    spec.fields.flatMap fun field => profile.annotations.element :: profile.typeNames field.type

end Profile

section

variable (spec : ClassSpec) (package : String) (profile : Profile) (siblings : List String)

/-- The table of simple names when all names of a unit are resolved. -/
def unitImports : Imports :=
  ((Imports.start package spec.name siblings).references (profile.resolvedNames spec)).2

/-- The text by which a unit refers to a qualified name. -/
def nameText (qualified : String) : String :=
  ((unitImports spec package profile siblings).reference qualified).1

/-- The qualified names that a unit imports. -/
def importLines : List String :=
  (unitImports spec package profile siblings).lines (!spec.fields.isEmpty)
    profile.annotations.element

/-- The unit for a class with given import lines and given texts for qualified names. -/
def unitText (lines : List String) (text : String → String) : String :=
  let typed := spec.fields.map fun field => (field, profile.writtenType text field.type)
  let blocks :=
    typed.map (fun (field, typeText) =>
      fieldBlock profile (text profile.annotations.element) typeText field) ++
    spec.accessors.filterMap (accessorBlock? profile typed)
  packageLine package ++ importBlock lines ++ documentation spec.documentation ++
  "@" ++ text profile.annotations.contentType ++ "(" ++ stringLiteral spec.provenance ++ ")\n" ++
  "public class " ++ spec.name ++ " \x7b\n" ++ "\n".intercalate blocks ++ "\x7d\n"

end

variable {spec : ClassSpec} {package : String} {profile : Profile} {siblings : List String}

section

variable {imports later : Imports}

/-- In a list type the name of the list is asked for before that of its items. -/
theorem typeText_listOf (profile : Profile) (imports : Imports) (item : DomainType) :
    typeText profile imports (.listOf item) =
      ((imports.reference profile.types.list).1 ++ "<" ++
          ((imports.reference profile.types.list).2.reference (profile.domainName item)).1 ++ ">",
        ((imports.reference profile.types.list).2.reference (profile.domainName item)).2) :=
  rfl

/-- The type of the first field is written before the others. -/
theorem typeTexts_cons (profile : Profile) (imports : Imports) (field : FieldSpec)
    (rest : List FieldSpec) :
    typeTexts profile imports (field :: rest) =
      ((typeText profile imports field.type).1 ::
          (typeTexts profile (typeText profile imports field.type).2 rest).1,
        (typeTexts profile (typeText profile imports field.type).2 rest).2) :=
  rfl

/-- A type leaves the table that its names leave. -/
theorem typeText_table (profile : Profile) (imports : Imports) (type : TypeDescriptor) :
    (typeText profile imports type).2 = (imports.references (profile.typeNames type)).2 := by
  cases type <;> rfl

/-- The text for a type is made of the texts that any later state of the table gives. -/
theorem typeText_settled {type : TypeDescriptor}
    (grown : (typeText profile imports type).2.Grows later) :
    (typeText profile imports type).1 =
      profile.writtenType (fun qualified => (later.reference qualified).1) type := by
  cases type with
  | scalar type => exact (Imports.reference_settled grown).symm
  | reference target => exact (Imports.reference_settled grown).symm
  | listOf item =>
    -- The name of the list is settled before that of its items is asked for.
    rw [typeText_listOf] at grown ⊢
    have listed := (Imports.grows_reference _ (profile.domainName item)).trans grown
    rw [Profile.writtenType, Imports.reference_settled listed, Imports.reference_settled grown]

/-- The types of all fields leave the table that their names leave. -/
theorem typeTexts_table (profile : Profile) (imports : Imports) (fields : List FieldSpec) :
    (typeTexts profile imports fields).2 = (imports.references (profile.fieldNames fields)).2 := by
  -- Each type leaves the table to the next, as its names do.
  induction fields generalizing imports with
  | nil => rfl
  | cons field rest ih =>
    rw [Profile.fieldNames, List.flatMap_cons, Imports.references_append, typeTexts_cons,
      typeText_table, ih, Profile.fieldNames]

/-- The texts for the types of all fields are those of any later state of the table. -/
theorem typeTexts_settled {fields : List FieldSpec}
    (grown : (typeTexts profile imports fields).2.Grows later) :
    (typeTexts profile imports fields).1 = fields.map fun field =>
      profile.writtenType (fun qualified => (later.reference qualified).1) field.type := by
  induction fields generalizing imports with
  | nil => rfl
  | cons field rest ih =>
    -- The table after the first type is one from which those of the others grow.
    rw [typeTexts_cons] at grown ⊢
    have after := Imports.grows_references (typeText profile imports field.type).2
      (profile.fieldNames rest)
    rw [← typeTexts_table] at after
    rw [List.map_cons, ih grown, typeText_settled (after.trans grown)]

end

/-- The class annotation has the text that the new table gives it. -/
theorem nameText_contentType (spec : ClassSpec) (package : String) (profile : Profile)
    (siblings : List String) :
    nameText spec package profile siblings profile.annotations.contentType =
      ((Imports.start package spec.name siblings).reference
        profile.annotations.contentType).1 :=
  Imports.reference_settled (Imports.grows_references _
    (profile.annotations.element :: profile.fieldNames spec.fields))

/-- A unit is laid out from its import lines and the final texts for all names. -/
theorem renderClass_eq (spec : ClassSpec) (package : String) (profile : Profile)
    (siblings : List String) :
    renderClass spec package profile siblings =
      unitText spec package profile (importLines spec package profile siblings)
        (nameText spec package profile siblings) := by
  -- The table after each annotation has a name, since the fields start from the last one.
  let start := Imports.start package spec.name siblings
  let withClass := (start.reference profile.annotations.contentType).2
  let withElement := (withClass.reference profile.annotations.element).2
  have final : (typeTexts profile withElement spec.fields).2 =
      unitImports spec package profile siblings :=
    typeTexts_table profile withElement spec.fields
  -- All names are resolved in earlier states of the table that is final.
  have marked : withElement.Grows (unitImports spec package profile siblings) :=
    withElement.grows_references (profile.fieldNames spec.fields)
  -- The class annotation is resolved first, and the element annotation after it.
  have classMark := nameText_contentType spec package profile siblings
  have elementMark : nameText spec package profile siblings profile.annotations.element =
      (withClass.reference profile.annotations.element).1 :=
    Imports.reference_settled marked
  have types : (typeTexts profile withElement spec.fields).1 = spec.fields.map fun field =>
      profile.writtenType (nameText spec package profile siblings) field.type :=
    typeTexts_settled (final ▸ Imports.Grows.refl (unitImports spec package profile siblings))
  have zipped : spec.fields.zip (typeTexts profile withElement spec.fields).1 =
      spec.fields.map fun field => (field,
        profile.writtenType (nameText spec package profile siblings) field.type) := by
    -- The field types get the texts of the final table too.
    rw [types, List.map_prod_left_eq_zip]
  -- With these texts put back, both sides are the same layout.
  simp only [unitText, importLines, classMark, elementMark, ← final, ← zipped]
  rfl

/-- The text for a type depends only on the texts for its names. -/
theorem writtenType_congr {text text' : String → String} {type : TypeDescriptor}
    (same : ∀ name ∈ profile.typeNames type, text name = text' name) :
    profile.writtenType text type = profile.writtenType text' type := by
  cases type <;> simp_all [Profile.typeNames, Profile.writtenType]

/-- The text for a unit depends only on the texts for the names that it uses. -/
theorem unitText_congr {text text' : String → String} (lines : List String)
    (same : ∀ name ∈ profile.usedNames spec, text name = text' name) :
    unitText spec package profile lines text = unitText spec package profile lines text' := by
  -- The class annotation is written in every unit.
  have classMark : text profile.annotations.contentType = text' profile.annotations.contentType :=
    same _ List.mem_cons_self
  -- All other names are written with some field.
  have onField {field name} (member : field ∈ spec.fields)
      (inside : name ∈ profile.annotations.element :: profile.typeNames field.type) :
      text name = text' name :=
    same name (List.mem_cons_of_mem _ (List.mem_flatMap.mpr ⟨field, member, inside⟩))
  have typed : (spec.fields.map fun field => (field, profile.writtenType text field.type)) =
      spec.fields.map fun field => (field, profile.writtenType text' field.type) :=
    List.map_congr_left fun field member => by
      rw [writtenType_congr fun name inside => onField member (List.mem_cons_of_mem _ inside)]
  -- Where there is no field, the element annotation may have any text.
  have blocks : (spec.fields.map fun field =>
        fieldBlock profile (text profile.annotations.element)
          (profile.writtenType text' field.type) field) =
      spec.fields.map fun field =>
        fieldBlock profile (text' profile.annotations.element)
          (profile.writtenType text' field.type) field :=
    List.map_congr_left fun field member => by rw [onField member List.mem_cons_self]
  simp only [unitText, classMark, List.map_map, Function.comp_def, typed, blocks]

/-- The import lines of a unit match the names that the rest of it uses. -/
structure ImportsMatch (spec : ClassSpec) (package : String) (profile : Profile)
    (siblings : List String) : Prop where
  /-- Apart from the lines, the unit is made of the texts for the names that it uses. -/
  written : ∀ text : String → String,
    (∀ name ∈ profile.usedNames spec, text name = nameText spec package profile siblings name) →
    renderClass spec package profile siblings =
      unitText spec package profile (importLines spec package profile siblings) text
  /-- The lines are in order, without repetition. -/
  increasing : (importLines spec package profile siblings).Pairwise (· < ·)
  /-- No two lines have the same simple name. -/
  distinct : ((importLines spec package profile siblings).map simpleName).Nodup
  /-- No line has the simple name of the class. -/
  own : spec.name ∉ (importLines spec package profile siblings).map simpleName
  /-- What is imported is used by its simple name, and is not in scope anyway. -/
  used : ∀ name ∈ importLines spec package profile siblings,
    name ∈ profile.usedNames spec ∧
    nameText spec package profile siblings name = simpleName name ∧
    packageOf name ∉ ["", "java.lang", package]
  /-- All such names are imported, but for the annotation of a class without fields where elements
  have the same one: that is dropped even if it is not in scope. -/
  complete :
    (∀ name ∈ profile.usedNames spec,
      nameText spec package profile siblings name = simpleName name →
      packageOf name ∉ ["", "java.lang", package] →
      name ∈ importLines spec package profile siblings) ↔
    (spec.fields = [] → profile.annotations.element = profile.annotations.contentType →
      packageOf profile.annotations.contentType ∈ ["", "java.lang", package] ∨
        simpleName profile.annotations.contentType = spec.name)

/-- A name needs an import unless the unit has its package in scope. -/
theorem needsImport_unitImports {name : String} :
    (unitImports spec package profile siblings).needsImport name = true ↔
      packageOf name ∉ ["", "java.lang", package] := by
  have within : (unitImports spec package profile siblings).package = package :=
    (Imports.grows_references _ _).package_eq
  simp [Imports.needsImport_iff, within]

/-- The class annotation from elsewhere is written by its simple name unless the class owns that. -/
theorem nameText_contentType_iff (plain : '.' ∉ spec.name.toList)
    (needed : packageOf profile.annotations.contentType ∉ ["", "java.lang", package]) :
    nameText spec package profile siblings profile.annotations.contentType =
        simpleName profile.annotations.contentType ↔
      simpleName profile.annotations.contentType ≠ spec.name := by
  rw [nameText_contentType]
  exact Imports.reference_start_eq_simpleName_iff plain
    (by simpa [Imports.needsImport_iff, Imports.start] using needed)

/-- All resolved names are used, but for the element annotation where there are no fields. -/
theorem mem_resolvedNames_iff {name : String}
    (kept : spec.fields ≠ [] ∨ name ≠ profile.annotations.element) :
    name ∈ profile.resolvedNames spec ↔ name ∈ profile.usedNames spec := by
  rw [Profile.resolvedNames, Profile.usedNames, Profile.fieldNames]
  cases fields : spec.fields with
  | nil =>
    have other := kept.resolve_left (not_not_intro fields)
    simp [other]
  | cons first rest =>
    -- One field is enough for the element annotation to be used.
    simp only [List.flatMap_cons, List.mem_cons, List.mem_append, List.mem_flatMap]
    grind

/-- A name is imported if it is used by its simple name and not in scope anyway, and not the element
annotation of a class without fields. -/
theorem mem_importLines (plain : '.' ∉ spec.name.toList) {name : String} :
    name ∈ importLines spec package profile siblings ↔
      name ∈ profile.usedNames spec ∧
      nameText spec package profile siblings name = simpleName name ∧
      packageOf name ∉ ["", "java.lang", package] ∧
      (spec.fields ≠ [] ∨ name ≠ profile.annotations.element) := by
  -- A line is for a name that was resolved, is written in short, needs it and is not dropped.
  have lines : name ∈ importLines spec package profile siblings ↔
      name ∈ profile.resolvedNames spec ∧
      nameText spec package profile siblings name = simpleName name ∧
      (unitImports spec package profile siblings).needsImport name = true ∧
      ((!spec.fields.isEmpty) = true ∨ name ≠ profile.annotations.element) :=
    Imports.mem_lines_references plain
  have present : (!spec.fields.isEmpty) = true ↔ spec.fields ≠ [] := by simp
  rw [lines, needsImport_unitImports, present]
  -- Resolved and used are the same for a name that is not dropped.
  constructor
  · rintro ⟨resolved, written, needed, kept⟩
    exact ⟨(mem_resolvedNames_iff kept).mp resolved, written, needed, kept⟩
  · rintro ⟨used, written, needed, kept⟩
    exact ⟨(mem_resolvedNames_iff kept).mpr used, written, needed, kept⟩

/-- The import lines match the unit for every class whose name has no dot. -/
theorem renderClass_imports (plain : '.' ∉ spec.name.toList) :
    ImportsMatch spec package profile siblings := by
  -- The table is sound from the start, which gives the order and the single lines.
  have sound : (unitImports spec package profile siblings).Sound :=
    (Imports.sound_start plain).references _
  refine ⟨?_, sound.increasing_lines _ _, sound.nodup_lines _ _, Imports.not_mem_lines plain _ _,
    ?_, ?_⟩
  · intro text same
    rw [renderClass_eq, unitText_congr _ same]
  · -- Every line serves a name of the unit.
    intro name line
    obtain ⟨used, written, needed, -⟩ := (mem_importLines plain).mp line
    exact ⟨used, written, needed⟩
  · constructor
    · -- The annotation that is dropped is used by its simple name.
      intro complete empty shared
      refine Decidable.byContradiction fun left => ?_
      rw [not_or] at left
      have line := complete _ List.mem_cons_self
        ((nameText_contentType_iff plain left.1).mpr left.2) left.1
      obtain ⟨-, -, -, kept⟩ := (mem_importLines plain).mp line
      exact kept.elim (absurd empty) (absurd shared.symm)
    · intro exception name used written needed
      refine (mem_importLines plain).mpr ⟨used, written, needed, ?_⟩
      -- With fields, no used name is dropped.
      by_cases empty : spec.fields = []
      · -- Only the class annotation is used, and it is dropped only if it is the element one.
        obtain rfl : name = profile.annotations.contentType := by
          simpa [Profile.usedNames, empty] using used
        refine .inr fun shared => ?_
        rcases exception empty shared.symm with within | owned
        · exact needed within
        · exact (nameText_contentType_iff plain needed).mp written owned
      · exact .inl empty

/-- The import lines match a class that owns the simple name of a type, beside one that hides
another type. -/
theorem renderClass_imports_clashes :
    let spec : ClassSpec := ⟨"Asset",
      [⟨"photo", .listOf .asset, "photo"⟩, ⟨"title", .scalar .string, "title"⟩], [], "asset", []⟩
    let siblings := ["Asset", "String"]
    '.' ∉ spec.name.toList ∧
    nameText spec "a.b" {} siblings "com.kenticocloud.delivery.Asset" =
      "com.kenticocloud.delivery.Asset" ∧
    nameText spec "a.b" {} siblings "java.lang.String" = "java.lang.String" ∧
    nameText spec "a.b" {} siblings "java.util.List" = "List" ∧
    ImportsMatch spec "a.b" {} siblings := by
  intro spec siblings
  exact ⟨by decide, by decide +kernel, by decide +kernel, by decide +kernel,
    renderClass_imports (by decide)⟩

/-- A class without fields is written under an annotation by its simple name that is not imported,
because elements have the same one. -/
theorem renderClass_misses_import :
    let profile : Profile := { annotations := ⟨"org.example.Mapping", "org.example.Mapping"⟩ }
    let spec : ClassSpec := ⟨"LandingPage", [], [], "landing_page", []⟩
    '.' ∉ spec.name.toList ∧
    '.' ∈ profile.annotations.element.toList ∧ '.' ∈ profile.annotations.contentType.toList ∧
    (∀ type, ∀ name ∈ profile.typeNames type, '.' ∈ name.toList) ∧
    renderClass spec "com.example.models" profile [] =
      "package com.example.models;\n\n" ++
      "/**\n */\n" ++
      "@Mapping(\x22landing_page\x22)\n" ++
      "public class LandingPage \x7b\n\x7d\n" ∧
    ¬ ∀ name, name ∈ importLines spec "com.example.models" profile [] ↔
      name ∈ profile.usedNames spec ∧
      nameText spec "com.example.models" profile [] name = simpleName name ∧
      packageOf name ∉ ["", "java.lang", "com.example.models"] := by
  intro profile spec
  -- No annotation is ever written in full here, as nothing hides it.
  have plain : '.' ∉ spec.name.toList := by decide
  refine ⟨plain, by decide, by decide, ?_, by decide +kernel, ?_⟩
  · intro type
    cases type with
    | scalar type => cases type <;> decide +kernel
    | reference target => cases target <;> decide +kernel
    | listOf item => cases item <;> decide +kernel
  · -- The annotation is used by its simple name, but it is dropped as that for elements.
    intro matched
    have line := (matched "org.example.Mapping").mpr
      ⟨List.mem_cons_self, by decide +kernel, by decide +kernel⟩
    obtain ⟨-, -, -, kept⟩ := (mem_importLines plain).mp line
    exact kept.elim (absurd rfl) (absurd rfl)

end ContentClasses.Java
