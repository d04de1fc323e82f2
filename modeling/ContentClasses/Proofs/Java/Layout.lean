import ContentClasses.Proofs.Java.Source
import ContentClasses.Proofs.Model.Members
import Mathlib.Data.List.Basic

/-! The unit for a finished class is laid out by position: one block for each field in order, then
the getter and the setter of each field, with one empty line between blocks and none behind them. -/

namespace ContentClasses.Java

/-- A block in the body of a class, with everything that is written in it. -/
inductive Declaration where
  | field (mark source type name : String)
  | getter (type method name : String)
  | setter (type method name : String)

namespace Declaration

/-- The lines of a block. -/
def lines (indent : String) : Declaration → List String
  | .field mark source type name => [
      indent ++ "@" ++ mark ++ "(" ++ stringLiteral source ++ ")",
      indent ++ type ++ " " ++ name ++ ";"]
  | .getter type method name => [
      indent ++ "public " ++ type ++ " " ++ method ++ "() \x7b",
      indent ++ indent ++ "return " ++ name ++ ";",
      indent ++ "\x7d"]
  | .setter type method name => [
      indent ++ "public void " ++ method ++ "(" ++ type ++ " " ++ name ++ ") \x7b",
      indent ++ indent ++ "this." ++ name ++ " = " ++ name ++ ";",
      indent ++ "\x7d"]

/-- The name of the field that a block declares. -/
def fieldName? : Declaration → Option String
  | .field _ _ _ name => some name
  | _ => none

/-- The name of the method that a block declares. -/
def methodName? : Declaration → Option String
  | .field .. => none
  | .getter _ method _ => some method
  | .setter _ method _ => some method

/-- A block has lines, and none of them is empty. -/
theorem lines_filled (indent : String) (declaration : Declaration) :
    declaration.lines indent ≠ [] ∧ ∀ line ∈ declaration.lines indent, line ≠ "" := by
  -- Every line has a mark of its own behind the indentation.
  cases declaration <;> simp [lines, String.append_eq_empty_iff]

end Declaration

/-- The text made of lines, with a line feed at the end of each. -/
def textOf (lines : List String) : String :=
  String.join (lines.map (· ++ "\n"))

/-- Two groups of lines one after the other. -/
theorem textOf_append (front back : List String) :
    textOf (front ++ back) = textOf front ++ textOf back := by
  simp [textOf]

/-- Blocks of lines with an empty line between them are their texts with a line feed between. -/
theorem textOf_intercalate (blocks : List (List String)) :
    textOf ([""].intercalate blocks) = "\n".intercalate (blocks.map textOf) := by
  -- The separator comes before every block but the first one.
  induction blocks with
  | nil => rfl
  | cons first rest ih =>
    cases rest with
    | nil => simp
    | cons second rest =>
      rw [List.intercalate_cons_cons, textOf_append, textOf_append, ih]
      simp [textOf]

/-- Lines that follow others are the last ones of the text. -/
theorem textOf_concat (front : List String) (last : String) :
    textOf (front ++ [last]) = textOf front ++ last ++ "\n" := by
  simp [textOf, String.append_assoc]

/-- An empty line behind every block is one between blocks and another one behind them all. -/
theorem flatMap_emptyLine {blocks : List (List String)} (present : blocks ≠ []) :
    blocks.flatMap (· ++ [""]) = [""].intercalate blocks ++ [""] := by
  -- What stands behind a block here stands before the next one there.
  induction blocks with
  | nil => exact absurd rfl present
  | cons first rest ih =>
    cases rest with
    | nil => simp
    | cons second rest => simp [ih, List.intercalate_cons_cons]

/-- Blocks with lines leave a line when they are put together. -/
theorem intercalate_ne_nil {blocks : List (List String)} (present : blocks ≠ [])
    (filled : ∀ block ∈ blocks, block ≠ []) : [""].intercalate blocks ≠ [] := by
  -- The first block has a line already.
  cases blocks with
  | nil => exact absurd rfl present
  | cons first rest =>
    have opened := filled first List.mem_cons_self
    cases rest <;> simp [List.intercalate_cons_cons, opened]

/-- A text without its last line feed if it ends in an empty line. -/
def withoutEmptyLine (text : List Char) : List Char :=
  if ['\n', '\n'] <:+ text then text.dropLast else text

/-- An empty line at the end is dropped. -/
theorem withoutEmptyLine_append (front : List Char) :
    withoutEmptyLine (front ++ ['\n', '\n']) = front ++ ['\n'] := by
  rw [withoutEmptyLine, if_pos (List.suffix_append front _)]
  simp

/-- A last line that is not empty stays. -/
theorem withoutEmptyLine_append_brace (front : List Char) :
    withoutEmptyLine (front ++ ['\x7b', '\n']) = front ++ ['\x7b', '\n'] := by
  refine if_neg ?_
  rintro ⟨before, same⟩
  -- Read from the back, the brace would have to be a line feed.
  simpa using congrArg List.reverse same

section

variable (spec : ClassSpec) (package : String) (profile : Profile) (siblings : List String)

/-- The blocks for the two accessors at a position, both for the field and the type there. -/
def accessDeclarations (text : String → String) :
    FieldSpec × AccessorSpec × AccessorSpec → List Declaration
  | (field, getter, setter) => [
      .getter (profile.writtenType text field.type) (profile.escapeMethod getter.name)
        (profile.escapeKeyword field.name),
      .setter (profile.writtenType text field.type) (profile.escapeMethod setter.name)
        (profile.escapeKeyword field.name)]

/-- The blocks in the body of a class: its fields in order, then its members by position. -/
def declarations : List Declaration :=
  let text := nameText spec package profile siblings
  spec.fields.map (fun field =>
    .field (text profile.annotations.element) field.source (profile.writtenType text field.type)
      (profile.escapeKeyword field.name)) ++
  spec.members.flatMap (accessDeclarations profile text)

/-- The names of the fields that are declared in the body of a class. -/
def declaredFields : List String :=
  (declarations spec package profile siblings).filterMap (·.fieldName?)

/-- The names of the methods that are declared in the body of a class. -/
def declaredMethods : List String :=
  (declarations spec package profile siblings).filterMap (·.methodName?)

/-- All that stands above the line that opens a class. -/
def header : String :=
  packageLine package ++ importBlock (importLines spec package profile siblings) ++
  documentation spec.documentation ++
  "@" ++ nameText spec package profile siblings profile.annotations.contentType ++ "(" ++
    stringLiteral spec.provenance ++ ")\n"

/-- The line that opens a class. -/
def openingLine : String := "public class " ++ spec.name ++ " \x7b"

/-- The reference layout of the unit for a class. -/
def layout : String :=
  header spec package profile siblings ++
  textOf ([openingLine spec] ++
    [""].intercalate ((declarations spec package profile siblings).map
      (·.lines profile.indent)) ++
    ["\x7d"])

end

variable {spec : ClassSpec} {package : String} {profile : Profile} {siblings : List String}

/-- The blocks declare every field under its escaped name. -/
theorem declaredFields_eq (paired : spec.Paired) :
    declaredFields spec package profile siblings =
      spec.fields.map fun field => profile.escapeKeyword field.name := by
  -- The blocks of accessors declare no field.
  simp [declaredFields, declarations, paired.members_eq, accessDeclarations, List.filterMap_flatMap,
    List.flatMap_map, List.filterMap_append, List.filterMap_map, Declaration.fieldName?]

/-- The blocks declare every accessor under its escaped name. -/
theorem declaredMethods_eq (paired : spec.Paired) :
    declaredMethods spec package profile siblings =
      spec.accessors.map fun accessor => profile.escapeMethod accessor.name := by
  -- Every accessor of every field is one declaration with its name.
  simp [declaredMethods, declarations, paired.members_eq, paired.accessors_eq, accessDeclarations,
    List.filterMap_flatMap, List.flatMap_map, List.map_flatMap, List.filterMap_append,
    List.filterMap_map, Declaration.methodName?, FieldSpec.accessors_eq]

/-- The line that opens a class ends in a brace. -/
theorem textOf_openingLine (spec : ClassSpec) :
    textOf [openingLine spec] = "public class " ++ spec.name ++ " \x7b\n" := by
  simp [textOf, openingLine, String.append_assoc]

/-- A brace alone closes a class. -/
theorem textOf_brace : textOf ["\x7d"] = "\x7d\n" := by
  simp [textOf]

/-- A field is written in the lines of its block. -/
theorem fieldBlock_eq (profile : Profile) (mark typeText : String) (field : FieldSpec) :
    fieldBlock profile mark typeText field =
      textOf ((Declaration.field mark field.source typeText
        (profile.escapeKeyword field.name)).lines profile.indent) := by
  simp [fieldBlock, textOf, Declaration.lines, String.append_assoc]

/-- The accessors of a field are written in the lines of their blocks. -/
theorem accessorBlocks_eq (profile : Profile) (text : String → String) (field : FieldSpec) :
    field.accessors.map (accessorBlock profile (profile.writtenType text field.type)) =
      (accessDeclarations profile text
        (field, field.accessor .getter, field.accessor .setter)).map
          fun declaration => textOf (declaration.lines profile.indent) := by
  simp [FieldSpec.accessors_eq, FieldSpec.accessor, accessorBlock, accessDeclarations, textOf,
    Declaration.lines, String.append_assoc]

/-- Looking up the field of each accessor by its name meets every field twice, in order. -/
theorem accessorBlocks_paired (paired : spec.Paired) (typeOf : FieldSpec → String) :
    spec.accessors.filterMap
        (accessorBlock? profile (spec.fields.map fun field => (field, typeOf field))) =
      spec.fields.flatMap fun field =>
        field.accessors.map (accessorBlock profile (typeOf field)) := by
  rw [paired.accessors_eq, List.filterMap_flatMap]
  refine List.flatMap_congr fun field member => ?_
  -- The name leads to this very field, because no other one has it.
  have found (accessor : AccessorSpec) (own : accessor.field = field.name) :
      accessorBlock? profile (spec.fields.map fun field => (field, typeOf field)) accessor =
        some (accessorBlock profile (typeOf field) accessor) := by
    have searched : (spec.fields.map fun field => (field, typeOf field)).find?
        (fun entry => entry.1.name = field.name) = some (field, typeOf field) := by
      rw [List.find?_map]
      exact congrArg (Option.map _) (find?_of_nodup paired.distinct member)
    simp [accessorBlock?, own, searched]
  rw [FieldSpec.accessors_eq]
  simp [found, FieldSpec.accessor]

/-- The unit for a finished class has the reference layout. -/
theorem renderClass_eq_layout (paired : spec.Paired) :
    renderClass spec package profile siblings = layout spec package profile siblings := by
  -- The blocks of fields and accessors are the texts of the declarations in their order.
  have blocks : (spec.fields.map fun field =>
        fieldBlock profile (nameText spec package profile siblings profile.annotations.element)
          (profile.writtenType (nameText spec package profile siblings) field.type) field) ++
      spec.accessors.filterMap (accessorBlock? profile (spec.fields.map fun field =>
        (field, profile.writtenType (nameText spec package profile siblings) field.type))) =
      (declarations spec package profile siblings).map
        fun declaration => textOf (declaration.lines profile.indent) := by
    rw [accessorBlocks_paired paired]
    simp only [accessorBlocks_eq, declarations, paired.members_eq, List.map_append, List.map_map,
      List.flatMap_map, List.map_flatMap, fieldBlock_eq, Function.comp_def]
  rw [renderClass_eq, unitText]
  simp only [List.map_map, Function.comp_def, blocks]
  rw [layout, textOf_append, textOf_append, textOf_intercalate, textOf_openingLine, textOf_brace]
  simp only [header, List.map_map, Function.comp_def, String.append_assoc]

/-- The layout is what is left of an empty line behind every block when the last one is dropped. -/
theorem layout_trimmed (spec : ClassSpec) (package : String) (profile : Profile)
    (siblings : List String) :
    (layout spec package profile siblings).toList =
      withoutEmptyLine (header spec package profile siblings ++ textOf ([openingLine spec] ++
        (declarations spec package profile siblings).flatMap
          (·.lines profile.indent ++ [""]))).toList ++ "\x7d\n".toList := by
  have behind : (declarations spec package profile siblings).flatMap
      (·.lines profile.indent ++ [""]) =
      ((declarations spec package profile siblings).map (·.lines profile.indent)).flatMap
        (· ++ [""]) := by
    rw [List.flatMap_map]
  -- No declaration is without lines.
  have filled : ∀ block ∈ (declarations spec package profile siblings).map
      (·.lines profile.indent), block ≠ [] := by
    intro block member
    obtain ⟨declaration, -, rfl⟩ := List.mem_map.mp member
    exact (declaration.lines_filled profile.indent).1
  rw [behind, layout, textOf_append, textOf_append, textOf_append, textOf_brace]
  generalize (declarations spec package profile siblings).map (·.lines profile.indent) = blocks
    at filled ⊢
  by_cases none : blocks = []
  · -- Without blocks the text ends in the opening brace, and nothing is dropped.
    have whole : (header spec package profile siblings ++
        (textOf [openingLine spec] ++ textOf (blocks.flatMap (· ++ [""])))).toList =
        (header spec package profile siblings ++ "public class " ++ spec.name ++ " ").toList ++
          ['\x7b', '\n'] := by
      rw [textOf_openingLine, none]
      simp [textOf]
    rw [whole, withoutEmptyLine_append_brace, textOf_openingLine, none]
    simp [textOf]
  · -- The lines of the last block end the text but for the empty line behind them.
    obtain ⟨front, last, lines⟩ :=
      (List.eq_nil_or_concat _).resolve_left (intercalate_ne_nil none filled)
    rw [List.concat_eq_append] at lines
    have whole : (header spec package profile siblings ++
        (textOf [openingLine spec] ++ textOf (blocks.flatMap (· ++ [""])))).toList =
        (header spec package profile siblings ++ textOf [openingLine spec] ++ textOf front ++
          last).toList ++ ['\n', '\n'] := by
      rw [flatMap_emptyLine none, lines, textOf_concat, textOf_concat]
      simp
    rw [whole, withoutEmptyLine_append, lines, textOf_concat]
    simp

/-- A unit is laid out by position, and all that its class has is there. -/
structure LaidOut (spec : ClassSpec) (package : String) (profile : Profile)
    (siblings : List String) : Prop where
  /-- By position every field stands beside a getter and a setter for it. -/
  members : spec.members.map (·.1) = spec.fields ∧
    ∀ field getter setter, (field, getter, setter) ∈ spec.members →
      getter.kind = .getter ∧ getter.field = field.name ∧
      setter.kind = .setter ∧ setter.field = field.name
  /-- These are all accessors of the class, in order. -/
  accessors : spec.members.flatMap (fun (_, getter, setter) => [getter, setter]) = spec.accessors
  /-- The unit has the reference layout, in which accessors are met by position. -/
  rendered : renderClass spec package profile siblings = layout spec package profile siblings
  /-- The empty lines of that layout are those between its blocks. -/
  filled : ∀ declaration ∈ declarations spec package profile siblings,
    declaration.lines profile.indent ≠ [] ∧ ∀ line ∈ declaration.lines profile.indent, line ≠ ""
  /-- A class without fields has no line between its braces. -/
  empty : spec.fields = [] → layout spec package profile siblings =
    header spec package profile siblings ++ textOf [openingLine spec, "\x7d"]
  /-- An empty line behind every block gives the same when the last one is dropped. -/
  trimmed : (layout spec package profile siblings).toList =
    withoutEmptyLine (header spec package profile siblings ++ textOf ([openingLine spec] ++
      (declarations spec package profile siblings).flatMap
        (·.lines profile.indent ++ [""]))).toList ++ "\x7d\n".toList

/-- The unit for a class with accessors for its own fields only is laid out by position. -/
theorem laidOut_of_paired (paired : spec.Paired) : LaidOut spec package profile siblings := by
  -- What is declared is what the class has, in its order.
  refine ⟨⟨?_, ?_⟩, paired.members_accessors, renderClass_eq_layout paired,
    fun declaration _ => declaration.lines_filled profile.indent, ?_, layout_trimmed ..⟩
  · rw [paired.members_eq, List.map_map]
    exact List.map_id _
  · -- A member is made of one field of the class and takes its name and type from there.
    intro field getter setter member
    rw [paired.members_eq] at member
    obtain ⟨_, -, same⟩ := List.mem_map.mp member
    cases same
    exact ⟨rfl, rfl, rfl, rfl⟩
  · -- A class without fields declares nothing, so only the braces are left.
    intro none
    have declared : declarations spec package profile siblings = [] := by
      simp [declarations, paired.members_eq, none]
    rw [layout, declared]
    rfl

/-- Rendering by the names of fields agrees with the layout by position, for a class that is built
alone and for every class of a batch. -/
theorem renderClass_by_position (config : CodegenConfig) (package : String) (profile : Profile)
    (siblings : List String) :
    (∀ type, LaidOut (config.naming.build type) package profile siblings) ∧
      ∀ types, ∀ spec ∈ config.naming.generateAll types,
        LaidOut spec package profile siblings := by
  -- Both ways to build a class give accessors for its own fields only.
  refine ⟨fun type => ?_, fun types spec member => ?_⟩
  · exact laidOut_of_paired (config.naming.build_paired type)
  · exact laidOut_of_paired (Naming.generateAll_paired member)

/-- Two fields that wanted one name are laid out in a class that is renamed. -/
example :
    let type : ContentType := ⟨"post", none, [⟨"class", "text", none⟩, ⟨"Class", "number", none⟩]⟩
    let name := "Post2"
    let spec := { ({} : Naming).build type with name }
    declaredFields spec "" {} [] = ["_class", "class2"] ∧
      declaredMethods spec "" {} [] = ["_getClass", "setClass", "getClass2", "setClass2"] := by
  decide +kernel

end ContentClasses.Java
