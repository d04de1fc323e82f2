import ContentClasses.Association

/-! Trees of directories and files, without links. -/

namespace ContentClasses

/-- A place in a tree: the names on the way down from its root. -/
abbrev Location := List String

/-- What stands at a place. -/
inductive Entry where
  | directory
  | text (content : String)
  /-- A file that is no text in UTF-8. -/
  | bytes (content : List UInt8)
  deriving DecidableEq, Repr

/-- A tree, given by its places other than the root. -/
structure Tree where
  entries : List (Location × Entry) := []
  deriving DecidableEq, Repr, Inhabited

namespace Tree

/-- What stands at a place, if anything does. -/
def get? (tree : Tree) (place : Location) : Option Entry :=
  if place = [] then some .directory else tree.entries.lookup place

/-- The tree with an entry at a place. -/
def put (tree : Tree) (place : Location) (entry : Entry) : Tree :=
  ⟨Association.put place entry tree.entries⟩

/-- Whether a directory stands at a place. -/
def isDirectory (tree : Tree) (place : Location) : Bool := tree.get? place = some .directory

/-- Looking up where an entry was put gives that entry, and nothing else changes. -/
theorem get?_put {tree : Tree} {place other : Location} {entry : Entry} (below : place ≠ []) :
    (tree.put place entry).get? other = if other = place then some entry else tree.get? other := by
  -- The root has no entry of its own, so nothing can be put there.
  by_cases root : other = []
  · simp [get?, root, Ne.symm below]
  · simp [get?, put, Association.lookup_put, root]

end Tree

end ContentClasses
