/-! Why an operation on files is refused. -/

namespace ContentClasses

/-- The cause of a refused operation. -/
inductive IoCause where
  | notFound
  | alreadyThere
  | notDirectory
  | isDirectory
  | nameTooLong
  | nulInName
  | notUtf8
  /-- No directory on the way to the wanted one could be made. -/
  | nothingToCreate
  /-- A cause from outside this library, in its own words. -/
  | other (text : String)
  deriving DecidableEq, Repr

/-- The text for a cause; those of the operating system carry its number. -/
def IoCause.message : IoCause → String
  | .notFound => "No such file or directory (os error 2)"
  | .alreadyThere => "File exists (os error 17)"
  | .notDirectory => "Not a directory (os error 20)"
  | .isDirectory => "Is a directory (os error 21)"
  | .nameTooLong => "File name too long (os error 36)"
  | .nulInName => "file name contained an unexpected NUL byte"
  | .notUtf8 => "stream did not contain valid UTF-8"
  | .nothingToCreate => "failed to create whole tree"
  | .other text => text

end ContentClasses
