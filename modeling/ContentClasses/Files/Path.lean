/-! Paths as texts: their steps, their parents, and how they are joined. -/

namespace ContentClasses.Path

/-- Whether a path starts at the root. -/
def isAbsolute (path : String) : Bool := path.toList.head? = some '/'

/-- Whether a path ends in a slash. -/
def endsInSlash (path : String) : Bool := path.toList.getLast? = some '/'

/-- The names between the slashes of a path. -/
def steps (path : String) : List String :=
  ((path.toList.splitOn '/').filter fun step => !step.isEmpty).map String.ofList

/-- The steps that count as parts of the path: a `.` only at the front of a relative path. -/
def components (path : String) : List String :=
  match steps path with
  | [] => []
  | first :: rest =>
    let kept := rest.filter (· ≠ ".")
    if first = "." && isAbsolute path then kept else first :: kept

/-- The path with given components. -/
def ofComponents (absolute : Bool) (components : List String) : String :=
  (if absolute then "/" else "") ++ "/".intercalate components

/-- The path continued by another one, which replaces it if that one starts at the root. -/
def join (left right : String) : String :=
  if isAbsolute right then right
  else if left.isEmpty || endsInSlash left then left ++ right
  else left ++ "/" ++ right

/-- The letters of a path from its end, without the slashes and the steps `.` that come first. -/
def untrailed : List Char → List Char
  | '/' :: rest => untrailed rest
  | '.' :: '/' :: rest => untrailed rest
  | letters => letters

/-- The path up to the end of its last component. -/
def trimmed (path : String) : String :=
  String.ofList (untrailed path.toList.reverse).reverse

/-- The path without its last component, or none if it has no component. -/
def parent? (path : String) : Option String :=
  match components path with
  | [] => none
  | parts => some (ofComponents (isAbsolute path) parts.dropLast)

/-- The paths above a path, the nearest first. -/
def ancestors (path : String) : List String :=
  let parts := components path
  -- The empty list of components stands for the root or the working directory.
  (List.range parts.length).reverse.map fun count =>
    ofComponents (isAbsolute path) (parts.take count)

/-- The steps that lead from one directory to a location, both given from the root. -/
def between : (base location : List String) → List String
  | start :: base, goal :: location =>
    if start = goal then between base location
    else List.replicate (base.length + 1) ".." ++ goal :: location
  | base, location => List.replicate base.length ".." ++ location

end ContentClasses.Path
