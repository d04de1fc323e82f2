import ContentClasses.Schema.TypeDescriptor

/-! How generated Java sources are written: type and annotation names, escaping and indentation. -/

namespace ContentClasses.Java

/-- The qualified Java names for all types that a field can have. -/
structure TypeNames where
  string : String := "java.lang.String"
  number : String := "java.lang.Double"
  dateTime : String := "java.time.ZonedDateTime"
  list : String := "java.util.List"
  option : String := "com.kenticocloud.delivery.Option"
  asset : String := "com.kenticocloud.delivery.Asset"
  taxonomy : String := "com.kenticocloud.delivery.Taxonomy"
  contentItem : String := "com.kenticocloud.delivery.ContentItem"
  deriving DecidableEq, Inhabited

/-- The qualified names of the annotations that lead back to the schema. -/
structure AnnotationNames where
  /-- Stands on each field with the codename of its element. -/
  element : String := "com.kenticocloud.delivery.ElementMapping"
  /-- Stands on the class with the codename of its content type. -/
  contentType : String := "com.kenticocloud.delivery.ContentItemMapping"
  deriving DecidableEq, Inhabited

/-- The settings under which sources are written. -/
structure Profile where
  types : TypeNames := {}
  annotations : AnnotationNames := {}
  /-- Put in front of names that Java reserves. -/
  keywordEscape : String := "_"
  /-- One level of indentation. -/
  indent : String := "  "
  deriving DecidableEq, Inhabited

/-- The words of Java that cannot name a field. -/
def keywords : List String := [
  "abstract", "assert", "boolean", "break", "byte", "case", "catch", "char",
  "class", "const", "continue", "default", "do", "double", "else", "enum",
  "extends", "final", "finally", "float", "for", "goto", "if", "implements",
  "import", "instanceof", "int", "interface", "long", "native", "new",
  "package", "private", "protected", "public", "return", "short", "static",
  "strictfp", "super", "switch", "synchronized", "this", "throw", "throws",
  "transient", "try", "void", "volatile", "while", "true", "false", "null"]

/-- The methods without argument that every class inherits, which no getter may override. -/
def objectMethods : List String := [
  "getClass", "hashCode", "toString", "clone", "finalize", "notify", "notifyAll", "wait"]

namespace Profile

/-- A field name, escaped if it is a keyword. -/
def escapeKeyword (profile : Profile) (name : String) : String :=
  if keywords.contains name then profile.keywordEscape ++ name else name

/-- A method name, escaped if it is that of an inherited method. -/
def escapeMethod (profile : Profile) (name : String) : String :=
  if objectMethods.contains name then profile.keywordEscape ++ name else name

/-- The qualified name for a scalar type. -/
def scalarName (profile : Profile) : ScalarType → String
  | .string => profile.types.string
  | .double => profile.types.number
  | .dateTime => profile.types.dateTime

/-- The qualified name for a type of the delivery runtime. -/
def domainName (profile : Profile) : DomainType → String
  | .option => profile.types.option
  | .asset => profile.types.asset
  | .taxonomy => profile.types.taxonomy
  | .contentItem => profile.types.contentItem

end Profile

end ContentClasses.Java
