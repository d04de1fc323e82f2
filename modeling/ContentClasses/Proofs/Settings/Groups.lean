import ContentClasses.Settings.Decode
import Mathlib.Data.List.Pairwise

/-! A group of settings is read from a table exactly if each of its parts is, from what stands under
its own key. -/

namespace ContentClasses

/-- Whether a reader gives a value for a setting, or for none the default. -/
def Decode.Gives {β : Type} (read : Decode β) (default : β) (given : Option Setting) (value : β) :
    Prop :=
  match given with
  | none => value = default
  | some setting => read.run setting = .ok value

@[simp] theorem Decode.gives_none {β : Type} {read : Decode β} {default value : β} :
    read.Gives default none value ↔ value = default :=
  .rfl

@[simp] theorem Decode.gives_some {β : Type} {read : Decode β} {default value : β}
    {setting : Setting} : read.Gives default (some setting) value ↔ read.run setting = .ok value :=
  .rfl

/-- A part of a group, with its reader and the ways to get it and to put another one. -/
structure GroupPart (α : Type) : Type 1 where
  Value : Type
  key : String
  read : Decode Value
  get : α → Value
  put : Value → α → α
  get_put : ∀ value group, get (put value group) = value := by
    intros
    rfl

namespace GroupPart

variable {α : Type} {entries : List (String × Setting)} {part other : GroupPart α}
  {parts : List (GroupPart α)} {group final : α}

/-- The field that a part is read as. -/
def field (part : GroupPart α) : GroupField Decode α := .of part.key part.read part.put

/-- Whether two parts have different keys and do not change each other. -/
@[mk_iff]
structure Apart (part other : GroupPart α) : Prop where
  keys : part.key ≠ other.key
  kept : ∀ value group, other.get (part.put value group) = other.get group
  keeps : ∀ value group, part.get (other.put value group) = part.get group

instance : Std.Symm (@Apart α) where
  symm _ _ apart := ⟨apart.keys.symm, apart.keeps, apart.kept⟩

/-- A part that is not given stays as it is. -/
theorem tableFields_absent (absent : entries.lookup part.key = none)
    (rest : List (GroupField Decode α)) (group : α) :
    Decode.tableFields entries (part.field :: rest) group =
      Decode.tableFields entries rest group := by
  simp [Decode.tableFields, field, GroupField.of, absent]

/-- A part that is given is put there if it can be read. -/
theorem tableFields_given {setting : Setting} (given : entries.lookup part.key = some setting)
    (rest : List (GroupField Decode α)) (group : α) :
    Decode.tableFields entries (part.field :: rest) group =
      match part.read.run setting with
      | .ok value => Decode.tableFields entries rest (part.put value group)
      | .error fault => .error (fault.within part.key) := by
  -- The reader of the field reads the value and answers with the change that puts it there.
  have changed : part.field.change.run setting = (part.read.run setting).map part.put := by
    show ((part.read.run setting).bind fun value => .ok (part.put value)) = _
    cases part.read.run setting <;> rfl
  simp only [Decode.tableFields, Decode.part, changed, show part.field.key = part.key from rfl,
    given]
  cases part.read.run setting <;> rfl

/-- Parts that were read have been given their values, and nothing else has changed. -/
theorem tableFields_ok (apart : parts.Pairwise Apart)
    (read : Decode.tableFields entries (parts.map field) group = .ok final) :
    (∀ part ∈ parts, part.read.Gives (part.get group) (entries.lookup part.key) (part.get final)) ∧
      ∀ other, (∀ part ∈ parts, part.Apart other) → other.get final = other.get group := by
  -- The first part gets its value, which the others leave as it is.
  induction parts generalizing group with
  | nil =>
    cases read
    exact ⟨nofun, fun _ _ => rfl⟩
  | cons part parts ih =>
    obtain ⟨first, others⟩ := List.pairwise_cons.mp apart
    rw [List.map_cons] at read
    cases given : entries.lookup part.key with
    | none =>
      rw [tableFields_absent given] at read
      obtain ⟨values, kept⟩ := ih others read
      refine ⟨List.forall_mem_cons.mpr ⟨?_, values⟩,
        fun other distinct => kept other (List.forall_mem_cons.mp distinct).2⟩
      -- With nothing under its key, the first part is what it was.
      rw [given]
      exact kept part fun later member => symm (first later member)
    | some setting =>
      rw [tableFields_given given] at read
      cases found : part.read.run setting with
      | error fault => simp [found] at read
      | ok value =>
        simp only [found] at read
        obtain ⟨values, kept⟩ := ih others read
        -- The recursion starts from the group with the new value, so that is what the others keep.
        have here : part.get final = value := by
          rw [kept part fun later member => symm (first later member), part.get_put]
        refine ⟨List.forall_mem_cons.mpr ⟨?_, fun later member => ?_⟩, fun other distinct => ?_⟩
        · rw [given, here]
          exact found
        · -- A later part was judged against the changed group, which agrees with the old one there.
          have same := values later member
          rwa [(first later member).kept] at same
        · obtain ⟨one, more⟩ := List.forall_mem_cons.mp distinct
          rw [kept other more, one.kept]

/-- Parts that can all be read are read. -/
theorem exists_tableFields
    (readable : ∀ part ∈ parts, ∀ setting, entries.lookup part.key = some setting →
      ∃ value, part.read.run setting = .ok value) (group : α) :
    ∃ final, Decode.tableFields entries (parts.map field) group = .ok final := by
  -- Whether a part can be read does not depend on the group so far.
  induction parts generalizing group with
  | nil => exact ⟨group, rfl⟩
  | cons part parts ih =>
    obtain ⟨first, others⟩ := List.forall_mem_cons.mp readable
    have later := ih others
    rw [List.map_cons]
    cases given : entries.lookup part.key with
    | none =>
      rw [tableFields_absent given]
      exact later group
    | some setting =>
      obtain ⟨value, found⟩ := first setting given
      rw [tableFields_given given, found]
      exact later (part.put value group)

end GroupPart

/-- The parts of a group, which make it up and do not change each other. -/
structure GroupParts (α : Type) : Type 1 where
  name : String
  blank : α
  parts : List (GroupPart α)
  apart : parts.Pairwise GroupPart.Apart := by
    simp [GroupPart.apart_iff]
  complete : ∀ group other,
      (∀ part ∈ parts, part.get group = part.get other) → group = other := by
    rintro ⟨⟩ ⟨⟩ same
    simpa using same

namespace GroupParts

variable {α : Type} {parts : GroupParts α} {entries : List (String × Setting)}
  {origin : Option String} {group : α}

/-- The reader of a group with given parts. -/
def decode (parts : GroupParts α) : Decode α :=
  SettingsSource.group parts.name (parts.parts.map GroupPart.field) parts.blank

/-- A group can be read from a table in which its parts can be read as far as they are given. -/
theorem exists_run_table (readable : ∀ part ∈ parts.parts, ∀ setting,
      entries.lookup part.key = some setting → ∃ value, part.read.run setting = .ok value) :
    ∃ group, parts.decode.run (.table entries origin) = .ok group :=
  GroupPart.exists_tableFields readable parts.blank

/-- A group is read from a table exactly if its parts are what stands there under their keys, or
their defaults where nothing does. -/
theorem run_table_iff : parts.decode.run (.table entries origin) = .ok group ↔
    ∀ part ∈ parts.parts,
      part.read.Gives (part.get parts.blank) (entries.lookup part.key) (part.get group) := by
  constructor
  · exact fun read => (GroupPart.tableFields_ok parts.apart read).1
  · intro values
    -- Some group is read, and it has the same parts.
    have readable : ∀ part ∈ parts.parts, ∀ setting, entries.lookup part.key = some setting →
        ∃ value, part.read.run setting = .ok value := by
      intro part member setting given
      have found := values part member
      rw [given] at found
      exact ⟨_, found⟩
    obtain ⟨read, found⟩ : ∃ group, parts.decode.run (.table entries origin) = .ok group :=
      exists_run_table readable
    have same := parts.complete read group fun part member => by
      -- Both have what stands under the key, or both the default.
      have here := (GroupPart.tableFields_ok parts.apart found).1 part member
      have there := values part member
      cases given : entries.lookup part.key with
      | none =>
        rw [given] at here there
        exact here.trans there.symm
      | some setting =>
        rw [given] at here there
        exact Except.ok.inj (here.symm.trans there)
    rw [← same]
    exact found

/-- A part of a group is the only one under its key. -/
theorem eq_of_key {part other : GroupPart α} (member : part ∈ parts.parts)
    (among : other ∈ parts.parts) (same : part.key = other.key) : part = other := by
  by_contra different
  exact (parts.apart.forall member among different).keys same

end GroupParts

end ContentClasses
