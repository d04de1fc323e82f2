import ContentClasses.Model.Batch
import ContentClasses.Proofs.Java.Escaping
import ContentClasses.Proofs.Naming.Opening

/-! The names that are written for snake-case codenames are legal in Java but for those that open
with a digit, which snake case lets through. -/

namespace ContentClasses.Java

/-- Whether a character can open a Java identifier, where all letters are those of ASCII. -/
def opensIdentifier (c : Char) : Bool :=
  c.isAlpha || c == '_' || c == '$'

/-- Whether a name is legal in Java: it opens with a letter or one of two marks, goes on with these
and digits, and is not reserved. -/
def isIdentifier (name : String) : Bool :=
  name.toList.head?.any opensIdentifier &&
    name.toList.tail.all (fun c => opensIdentifier c || c.isDigit) &&
    !keywords.contains name

/-- Every keyword opens with a small letter. -/
theorem keywords_small : ∀ word ∈ keywords, word.toList.head?.any Char.isLower = true := by
  decide +kernel

/-- No keyword begins as an accessor's name does. -/
theorem opening_not_prefix_keywords (kind : AccessorKind) :
    ∀ word ∈ keywords, ¬ kind.opening.toList <+: word.toList := by
  cases kind <;> decide +kernel

section

variable {name : String}

/-- No keyword opens with a digit. -/
theorem opensWithDigit_keyword (among : name ∈ keywords) : opensWithDigit name = false := by
  -- All of them open with a letter.
  have small := keywords_small name among
  rw [opensWithDigit]
  cases letters : name.toList.head? with
  | none => rfl
  | some first =>
    rw [letters, Option.any_some] at small
    exact isDigit_eq_false_of_isAlpha (by simp [Char.isAlpha, small])

/-- Among letters and digits only the letters open an identifier. -/
theorem opensIdentifier_of_isAlphanum {c : Char} (given : c.isAlphanum = true) :
    opensIdentifier c = !c.isDigit := by
  -- The two marks are neither letters nor digits.
  rcases Bool.or_eq_true_iff.mp given with letter | digit
  · simp [opensIdentifier, letter, isDigit_eq_false_of_isAlpha letter]
  · have mark : c ≠ '_' ∧ c ≠ '$' := by
      constructor <;> rintro rfl <;> cases digit
    simp [opensIdentifier, isAlpha_eq_false_of_isDigit digit, mark, digit]

/-- Letters and digits go on with any identifier. -/
theorem continues_of_isAlphanum {letters : List Char}
    (given : ∀ c ∈ letters, c.isAlphanum = true) :
    letters.all (fun c => opensIdentifier c || c.isDigit) = true := by
  -- What does not open an identifier is a digit here.
  refine List.all_eq_true.mpr fun c member => ?_
  rw [opensIdentifier_of_isAlphanum (given c member), Bool.not_or_self]

/-- A name of letters and digits is legal unless it opens with a digit or is reserved. -/
theorem isIdentifier_of_isAlphanumeric (given : IsAlphanumeric name) :
    isIdentifier name = (!opensWithDigit name && !keywords.contains name) := by
  obtain ⟨first, rest, letters⟩ :=
    List.exists_cons_of_ne_nil (mt String.toList_eq_nil_iff.mp given.1)
  have alphanumeric := given.2
  rw [letters, List.forall_mem_cons] at alphanumeric
  -- Only the first character is left to decide, beside the keywords.
  simp only [isIdentifier, opensWithDigit, letters, List.head?_cons, List.tail_cons,
    Option.any_some, opensIdentifier_of_isAlphanum alphanumeric.1,
    continues_of_isAlphanum alphanumeric.2, Bool.and_true]

/-- An underscore makes any name of letters and digits legal. -/
theorem isIdentifier_underscore (given : IsAlphanumeric name) :
    isIdentifier ("_" ++ name) = true := by
  -- No keyword has an underscore.
  have allowed : "_" ++ name ∉ keywords := by
    intro among
    exact keywords_plain _ among (by simp)
  have behind := continues_of_isAlphanum given.2
  rw [isIdentifier, String.toList_append]
  simp only [String.reduceToList, List.cons_append, List.nil_append, List.head?_cons,
    List.tail_cons, behind]
  simp [allowed, opensIdentifier]

/-- Behind its escape a field name is legal unless it opens with a digit. -/
theorem isIdentifier_escapedField (given : IsAlphanumeric name) :
    isIdentifier (escaped keywords "_" name) = !opensWithDigit name := by
  by_cases among : name ∈ keywords
  · -- The name is escaped, and it had no digit in front.
    rw [escaped_reserved among, isIdentifier_underscore given, opensWithDigit_keyword among]
    rfl
  · rw [escaped_free among, isIdentifier_of_isAlphanumeric given]
    simp [among]

/-- Behind its escape an accessor's name is legal, whatever its field is called. -/
theorem isIdentifier_escapedMethod (given : IsAlphanumeric name) (kind : AccessorKind) :
    isIdentifier (escaped objectMethods "_" (accessorName kind name)) = true := by
  have method := given.accessorName kind
  by_cases among : accessorName kind name ∈ objectMethods
  · rw [escaped_reserved among, isIdentifier_underscore method]
  · -- The word in front is neither a digit nor the beginning of a keyword.
    have opened : opensWithDigit (accessorName kind name) = false := by
      cases kind <;> simp [opensWithDigit, accessorName, AccessorKind.opening]
    have allowed : accessorName kind name ∉ keywords := by
      intro reserved
      refine opening_not_prefix_keywords kind _ reserved ?_
      rw [accessorName, String.toList_append]
      exact List.prefix_append _ _
    rw [escaped_free among, isIdentifier_of_isAlphanumeric method, opened]
    simp [allowed]

/-- A class name is legal unless its codename opens with a digit. -/
theorem isIdentifier_typeName {naming : Naming} {codename : String}
    (snake : isSnakeCase codename = true) :
    isIdentifier (naming.typeName codename) = !opensWithDigit codename := by
  -- The capital in front keeps the name off the keywords.
  have allowed : naming.typeName codename ∉ keywords := by
    intro reserved
    have small := keywords_small _ reserved
    rw [Naming.head?_typeName, Option.any_map] at small
    simp at small
  rw [isIdentifier_of_isAlphanumeric (naming.typeName_isAlphanumeric snake),
    Naming.opensWithDigit_typeName snake]
  simp [allowed]

end

/-- The fields of a class for snake-case elements have names of letters and digits, which open with
a digit exactly if the codenames of their elements do. -/
theorem alphanumeric_of_build (naming : Naming) {type : ContentType}
    (elements : ∀ element ∈ type.elements,
      (TypeDescriptor.ofTag? element.tag).isSome = true → isSnakeCase element.codename = true) :
    ∀ field ∈ (naming.build type).fields,
      IsAlphanumeric field.name ∧ opensWithDigit field.name = opensWithDigit field.source := by
  intro field member
  obtain ⟨element, among, taken, typed, source, name⟩ := Naming.mem_build_fields member
  -- An element with a field is supported, so its codename is one of those that are given.
  have snake := elements element among (by simp [typed])
  have given := naming.memberName_isAlphanumeric snake
  rw [name, source, opensWithDigit_firstFree given.1, Naming.opensWithDigit_memberName snake]
  exact ⟨given.firstFree taken, rfl⟩

/-- Which of the names that are written for a class of a content type are legal. -/
structure Identified (type : ContentType) (spec : ClassSpec) (package : String) (profile : Profile)
    (siblings : List String) : Prop where
  /-- The unit is made of the line that names the class and the blocks that declare its members. -/
  rendered : renderClass spec package profile siblings = layout spec package profile siblings
  /-- The class has a legal name exactly if its codename does not open with a digit. -/
  class_name : isIdentifier spec.name = !opensWithDigit type.codename
  fields : declaredFields spec package profile siblings =
    spec.fields.map fun field => profile.escapeKeyword field.name
  /-- A field has a legal name exactly if the codename of its element does not open with a digit. -/
  field_names : ∀ field ∈ spec.fields,
    isIdentifier (profile.escapeKeyword field.name) = !opensWithDigit field.source
  /-- Every accessor has a legal name. -/
  method_names : ∀ name ∈ declaredMethods spec package profile siblings, isIdentifier name = true

/-- Under the default escape, snake-case codenames that do not open with a digit are written as
legal identifiers, and no others are but for the names of accessors. -/
theorem build_identifiers {type : ContentType} {profile : Profile} (config : CodegenConfig)
    (package : String) (siblings : List String) (codename : isSnakeCase type.codename = true)
    (elements : ∀ element ∈ type.elements,
      (TypeDescriptor.ofTag? element.tag).isSome = true → isSnakeCase element.codename = true)
    (escape : profile.keywordEscape = ({} : Profile).keywordEscape) :
    Identified type (config.naming.build type) package profile siblings := by
  -- Fields and methods are declared as the class has them.
  have paired := config.naming.build_paired type
  have given := alphanumeric_of_build config.naming elements
  refine ⟨renderClass_eq_layout paired, isIdentifier_typeName codename, declaredFields_eq paired,
    ?_, ?_⟩
  · -- Whether a field is legal is told by its first letter alone.
    intro field member
    rw [escapeKeyword_eq, escape, isIdentifier_escapedField (given field member).1,
      (given field member).2]
  · intro name member
    rw [declaredMethods_eq paired, paired.accessors_eq] at member
    -- Every method is an accessor of one of the fields.
    obtain ⟨accessor, among, rfl⟩ := List.mem_map.mp member
    obtain ⟨field, inside, own⟩ := List.mem_flatMap.mp among
    obtain ⟨kind, -, rfl⟩ := List.mem_map.mp own
    rw [escapeMethod_eq, escape]
    exact isIdentifier_escapedMethod (given field inside).1 kind

/-- A class with a digit in front, elements that wish for reserved names, and one with a digit. -/
theorem build_identifiers_reserved :
    let type : ContentType := ⟨"3d_model", none,
      [⟨"class", "text", none⟩, ⟨"2x_image", "asset", none⟩, ⟨"Not Read", "unknown", none⟩]⟩
    let spec := ({} : CodegenConfig).naming.build type
    isSnakeCase type.codename = true ∧
    (∀ element ∈ type.elements,
      (TypeDescriptor.ofTag? element.tag).isSome = true → isSnakeCase element.codename = true) ∧
    spec.name = "3dModel" ∧
    declaredFields spec "a.b" {} [] = ["_class", "2xImage"] ∧
    declaredMethods spec "a.b" {} [] = ["_getClass", "setClass", "get2xImage", "set2xImage"] ∧
    Identified type spec "a.b" {} [] := by
  -- All codenames but that of the element without a type are snake case.
  intro type spec
  have codename : isSnakeCase type.codename = true := by decide +kernel
  have elements : ∀ element ∈ type.elements,
      (TypeDescriptor.ofTag? element.tag).isSome = true → isSnakeCase element.codename = true := by
    decide +kernel
  exact ⟨codename, elements, by decide +kernel, by decide +kernel, by decide +kernel,
    build_identifiers {} "a.b" [] codename elements rfl⟩

/-- A field that is written with a digit in front, although nothing is found wrong with the codename
of its element. -/
theorem build_identifiers_digit :
    let type : ContentType := ⟨"article", none, [⟨"2x_image", "text", none⟩]⟩
    let spec := ({} : CodegenConfig).naming.build type
    isSnakeCase type.codename = true ∧
    (∀ element ∈ type.elements, isSnakeCase element.codename = true) ∧
    (({} : CodegenConfig).generate [type]).diagnostics.items = [] ∧
    declaredFields spec "com.example.models" {} ["Article"] = ["2xImage"] ∧
    ¬ ∀ name ∈ declaredFields spec "com.example.models" {} ["Article"],
      isIdentifier name = true := by
  decide +kernel

end ContentClasses.Java
