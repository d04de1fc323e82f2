import ContentClasses.Java.Imports
import ContentClasses.Java.Profile
import ContentClasses.Model.ClassSpec

/-! Java compilation units for class specifications. -/

namespace ContentClasses.Java

/-- The text for the type of a field, with the imports it needs noted. -/
def typeText (profile : Profile) (imports : Imports) : TypeDescriptor → String × Imports
  | .scalar type => imports.reference (profile.scalarName type)
  | .reference target => imports.reference (profile.domainName target)
  | .listOf item =>
    let (list, listed) := imports.reference profile.types.list
    let (element, noted) := listed.reference (profile.domainName item)
    (list ++ "<" ++ element ++ ">", noted)

/-- The texts for the types of all fields, in order. -/
def typeTexts (profile : Profile) (imports : Imports) : List FieldSpec → List String × Imports
  | [] => ([], imports)
  | field :: rest =>
    let (text, noted) := typeText profile imports field.type
    let (texts, final) := typeTexts profile noted rest
    (text :: texts, final)

/-- A character as it stands inside a literal. -/
def literalChar : Char → List Char
  | '\x22' => ['\\', '\x22']
  | '\\' => ['\\', '\\']
  | '\n' => ['\\', 'n']
  | c => [c]

/-- The literal for a text: quotes, backslashes and line feeds are escaped and all else stands as
it is. -/
def stringLiteral (value : String) : String :=
  String.ofList (['\x22'] ++ value.toList.flatMap literalChar ++ ['\x22'])

/-- The comment on a class, in which an empty line has no blank at its end. -/
def documentation (lines : List String) : String :=
  "/**\n" ++ String.join (lines.map fun line =>
    if line.isEmpty then " *\n" else " * " ++ line ++ "\n") ++ " */\n"

/-- The declaration of a field under its annotation. -/
def fieldBlock (profile : Profile) (mark typeText : String) (field : FieldSpec) : String :=
  profile.indent ++ "@" ++ mark ++ "(" ++ stringLiteral field.source ++ ")\n" ++
  profile.indent ++ typeText ++ " " ++ profile.escapeKeyword field.name ++ ";\n"

/-- The method for an accessor to a field of a given type. -/
def accessorBlock (profile : Profile) (typeText : String) (accessor : AccessorSpec) : String :=
  let field := profile.escapeKeyword accessor.field
  let method := profile.escapeMethod accessor.name
  let inner := profile.indent ++ profile.indent
  let opening := match accessor.kind with
    | .getter => "public " ++ typeText ++ " " ++ method ++ "() \x7b\n" ++
        inner ++ "return " ++ field ++ ";\n"
    | .setter => "public void " ++ method ++ "(" ++ typeText ++ " " ++ field ++ ") \x7b\n" ++
        inner ++ "this." ++ field ++ " = " ++ field ++ ";\n"
  profile.indent ++ opening ++ profile.indent ++ "\x7d\n"

/-- The method for an accessor if the class has the field that it names. -/
def accessorBlock? (profile : Profile) (typed : List (FieldSpec × String))
    (accessor : AccessorSpec) : Option String :=
  (typed.find? (·.1.name = accessor.field)).map fun (_, typeText) =>
    accessorBlock profile typeText accessor

/-- The package line, which the unnamed package does without. -/
def packageLine (package : String) : String :=
  if package.isEmpty then "" else "package " ++ package ++ ";\n\n"

/-- The import lines with an empty line after them, or nothing if there are none. -/
def importBlock (lines : List String) : String :=
  if lines.isEmpty then ""
  else String.join (lines.map fun line => "import " ++ line ++ ";\n") ++ "\n"

/-- The compilation unit for a class in a package, among all class names of its batch. -/
def renderClass (spec : ClassSpec) (package : String) (profile : Profile)
    (siblings : List String) : String :=
  -- All names are resolved first, because the imports stand above their uses.
  let start := Imports.start package spec.name siblings
  let (classMark, withClass) := start.reference profile.annotations.contentType
  let (elementMark, withElement) := withClass.reference profile.annotations.element
  let (types, imports) := typeTexts profile withElement spec.fields
  let typed := spec.fields.zip types
  let blocks :=
    typed.map (fun (field, typeText) => fieldBlock profile elementMark typeText field) ++
    spec.accessors.filterMap (accessorBlock? profile typed)
  packageLine package ++
  importBlock (imports.lines (!spec.fields.isEmpty) profile.annotations.element) ++
  documentation spec.documentation ++
  "@" ++ classMark ++ "(" ++ stringLiteral spec.provenance ++ ")\n" ++
  "public class " ++ spec.name ++ " \x7b\n" ++ "\n".intercalate blocks ++ "\x7d\n"

end ContentClasses.Java
