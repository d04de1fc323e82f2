import ContentClasses.Proofs.Toml.Document
import Mathlib.Data.List.Nodup

/-! Written tables build the document that holds their assignments. -/

namespace ContentClasses.Association

variable {κ ν : Type} [BEq κ] [LawfulBEq κ]

/-- A value under a new key goes behind the entries that are there. -/
theorem put_append {key : κ} {entries : List (κ × ν)} (fresh : entries.lookup key = none)
    (value : ν) (rest : List (κ × ν)) :
    put key value (entries ++ rest) = entries ++ put key value rest := by
  -- A key that is not there is passed over entry by entry.
  induction entries with
  | nil => rfl
  | cons head entries ih =>
    rcases head with ⟨other, old⟩
    have apart : other ≠ key := by
      rintro rfl
      simp at fresh
    rw [List.lookup_cons, beq_false_of_ne apart.symm] at fresh
    simp [put, apart, ih fresh]

/-- A value under a new key goes to the end. -/
theorem put_fresh {key : κ} {entries : List (κ × ν)} (fresh : entries.lookup key = none)
    (value : ν) : put key value entries = entries ++ [(key, value)] := by
  simpa [put] using put_append fresh value []

end ContentClasses.Association

namespace ContentClasses.Toml

/-- A change of a table is what it makes of its entries. -/
@[simp] theorem Node.changeTable_table (change : Origin → List (String × Node) → Option Node)
    (origin : Origin) (entries : List (String × Node)) :
    (Node.table origin entries).changeTable change = change origin entries :=
  rfl

/-- A place in a document, by its path and by the whole that each table at the place makes. -/
structure Focus (path : List String) (whole : Node → Node) : Prop where
  change : ∀ change origin entries, (whole (.table origin entries)).changeTable
    (changeAt change path) = (change origin entries).map whole

namespace Focus

variable {path : List String} {whole : Node → Node}

/-- The root is a place. -/
theorem root : Focus [] id where
  change change origin entries := by
    cases same : change origin entries <;> simp [changeAt, same]

/-- A place in the last of some tables is a place in all of them. -/
theorem below (focus : Focus path whole) {key : String} {entries : List (String × Node)}
    (fresh : entries.lookup key = none) (origin : Origin) :
    Focus (key :: path) fun node => .table origin (entries ++ [(key, whole node)]) where
  change change made within := by
    -- The new key is found behind the others, where the change is made.
    have found : (entries ++ [(key, whole (.table made within))]).lookup key =
        some (whole (.table made within)) := by
      simp [List.lookup_append, fresh]
    simp only [Node.changeTable_table, changeAt, found, Option.getD_some, focus.change]
    cases change made within <;> simp [Association.put_append fresh, Association.put]

end Focus

/-- The entries that assignments make. -/
def assigned (assignments : List Assignment) : List (String × Node) :=
  assignments.map fun assignment => (assignment.key, .value assignment.content)

/-- Assignments to different keys are added one after the other to the table they go to. -/
theorem foldlM_assignments {path : List String} {whole : Node → Node} (focus : Focus path whole)
    {assignments : List Assignment} (entries : List (String × Node))
    (distinct : ((entries ++ assigned assignments).map (·.1)).Nodup) (origin : Origin) :
    (assignments.map Assignment.line).foldlM Draft.add ⟨whole (.table origin entries), path⟩ =
      some ⟨whole (.table origin (entries ++ assigned assignments)), path⟩ := by
  -- Each key is new to the entries made so far, so its value goes to their end.
  induction assignments generalizing entries with
  | nil => simp [assigned]
  | cons assignment assignments ih =>
    have moved : entries ++ assigned (assignment :: assignments) =
        (entries ++ [(assignment.key, .value assignment.content)]) ++ assigned assignments := by
      simp [assigned]
    rw [moved] at distinct ⊢
    -- The key is none of those made so far, since all keys differ.
    have fresh : entries.lookup assignment.key = none := by
      rw [List.lookup_eq_none_iff]
      rintro ⟨other, old⟩ among
      rw [List.map_append, List.map_append, List.nodup_append, List.nodup_append] at distinct
      simpa using (distinct.1.2.2 other (List.mem_map_of_mem among) assignment.key (by simp)).symm
    have put := Association.put_fresh fresh (Node.value assignment.content)
    simpa [Assignment.line, Draft.add, Draft.change, focus.change, assign, fresh, put] using
      ih _ distinct

/-- Some tables of a document take it from one state to another. -/
def Builds (before : Draft) (tables : List Section) (after : Draft) : Prop :=
  (tables.flatMap Section.lines).foldlM Draft.add before = some after

namespace Builds

variable {before middle after : Draft}

/-- No table changes nothing. -/
theorem nil (draft : Draft) : Builds draft [] draft :=
  rfl

/-- The lines of the first table come before all others. -/
theorem cons {table : Section} {tables : List Section}
    (first : table.lines.foldlM Draft.add before = some middle)
    (others : Builds middle tables after) : Builds before (table :: tables) after := by
  simp only [Builds, List.flatMap_cons, List.foldlM_append, first]
  exact others

end Builds

variable {key outer : String} {assignments : List Assignment} {entries inner : List (String × Node)}

/-- A table under a new key goes behind those that are there. -/
theorem foldlM_table (fresh : entries.lookup key = none)
    (distinct : ((assigned assignments).map (·.1)).Nodup) (current : List String) :
    (Section.lines ⟨key, [], assignments⟩).foldlM Draft.add ⟨.table .defined entries, current⟩ =
      some ⟨.table .defined (entries ++ [(key, .table .defined (assigned assignments))]),
        [key]⟩ := by
  have put := Association.put_fresh fresh (Node.table .defined [])
  have rest := foldlM_assignments (Focus.root.below fresh .defined) [] distinct .defined
  simpa [Section.lines, Draft.add, Draft.change, changeAt, openTable, fresh, put]
    using rest

/-- A table within one that is there goes behind the other entries of that table. -/
theorem foldlM_tableWithin (fresh : entries.lookup outer = none) (new : inner.lookup key = none)
    (distinct : ((assigned assignments).map (·.1)).Nodup) (made : Origin) (current : List String) :
    (Section.lines ⟨outer, [key], assignments⟩).foldlM Draft.add
        ⟨.table .defined (entries ++ [(outer, .table made inner)]), current⟩ =
      some ⟨.table .defined (entries ++
        [(outer, .table made (inner ++ [(key, .table .defined (assigned assignments))]))]),
        [outer, key]⟩ := by
  have put := Association.put_fresh new (Node.table .defined [])
  -- The header goes to the outer table, and what follows to the one that it made there.
  have header := (Focus.root.below fresh .defined).change (openTable key) made inner
  have rest := foldlM_assignments ((Focus.root.below new made).below fresh .defined) []
    distinct .defined
  simp only [id] at header
  simpa [Section.lines, Draft.add, Draft.change, header, openTable, new, put] using rest

/-- A table within a new one makes that one as well. -/
theorem foldlM_tableWithin_new (fresh : entries.lookup outer = none)
    (distinct : ((assigned assignments).map (·.1)).Nodup) (current : List String) :
    (Section.lines ⟨outer, [key], assignments⟩).foldlM Draft.add
        ⟨.table .defined entries, current⟩ =
      some ⟨.table .defined (entries ++
        [(outer, .table .implied [(key, .table .defined (assigned assignments))])]),
        [outer, key]⟩ := by
  -- The outer table is there only because the inner one is.
  have put := Association.put_fresh fresh (Node.table .implied [(key, .table .defined [])])
  have empty : ([] : List (String × Node)).lookup key = none := rfl
  have rest := foldlM_assignments ((Focus.root.below empty .implied).below fresh .defined)
    [] distinct .defined
  simpa [Section.lines, Draft.add, Draft.change, changeAt, openTable, fresh, Association.put, put]
    using rest

end ContentClasses.Toml
