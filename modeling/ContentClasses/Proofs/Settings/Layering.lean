import ContentClasses.Proofs.Settings.Leaves

/-! Layers of settings that hold known leaves only: of two of them, the later one decides over the
leaves that it sets and over no others. -/

namespace ContentClasses

/-- How a step is named, where a position in a list has a name that no key has. -/
def KeyStep.name : KeyStep → String
  | .key name => name
  | .index position => "[" ++ toString position ++ "]"

/-- A setting at the end of names that lead to it through tables of one entry each. -/
def Setting.nested (names : List String) (setting : Setting) : Setting :=
  names.foldr (fun name inner => .table [(name, inner)] none) setting

/-- An entry of a layer with tables in place of the steps of its key. -/
def unfoldedEntry (entry : String × Setting) : String × Setting :=
  ((KeyPath.ofKey entry.1).first,
    entry.2.nested ((KeyPath.ofKey entry.1).steps.map KeyStep.name))

mutual

/-- What is no table in a setting, with the names that lead there from a path on. -/
def Setting.assignments (path : List String) : Setting → List (List String × Setting)
  | .table entries _ => entryAssignments path entries
  | setting => [(path, setting)]

/-- What is no table in the entries of a table, with the names that lead there from a path on. -/
def entryAssignments (path : List String) :
    List (String × Setting) → List (List String × Setting)
  | [] => []
  | (key, setting) :: rest => setting.assignments (path ++ [key]) ++ entryAssignments path rest

end

/-- Whether a path leads to a group: some leaf lies below it. -/
def IsGroup (path : List String) : Prop :=
  ∃ leaf : Leaf, path <+: leaf.path ∧ path ≠ leaf.path

mutual

/-- Whether a setting at a path holds known leaves only, each with a value that it can have. -/
def Setting.KnownAt (path : List String) : Setting → Prop
  | .table entries _ => IsGroup path ∧ KnownEntries path entries
  | setting => ∃ leaf : Leaf, leaf.path = path ∧ ∃ value, leaf.read.run setting = .ok value

/-- Whether the entries of a table at a path hold known leaves only. -/
def KnownEntries (path : List String) : List (String × Setting) → Prop
  | [] => True
  | (key, setting) :: rest => setting.KnownAt (path ++ [key]) ∧ KnownEntries path rest

end

/-- Whether a layer holds known leaves only, each with a value that it can have. -/
def KnownLayer (layer : List (String × Setting)) : Prop :=
  KnownEntries [] (layer.map unfoldedEntry)

instance (path : List String) : Decidable (IsGroup path) :=
  decidable_of_iff (∃ leaf ∈ Leaf.all, path <+: leaf.path ∧ path ≠ leaf.path)
    ⟨fun ⟨leaf, _, below⟩ => ⟨leaf, below⟩, fun ⟨leaf, below⟩ => ⟨leaf, leaf.mem_all, below⟩⟩

/-- Whether a leaf at a path can have a setting is told by looking at all leaves. -/
theorem exists_leaf_iff (path : List String) (setting : Setting) :
    (∃ leaf : Leaf, leaf.path = path ∧ ∃ value, leaf.read.run setting = .ok value) ↔
      ∃ leaf ∈ Leaf.all, leaf.path = path ∧ (leaf.read.run setting).isOk = true := by
  -- All leaves are in the list, and whether a reader succeeds is seen from its answer.
  constructor
  · rintro ⟨leaf, same, value, read⟩
    exact ⟨leaf, leaf.mem_all, same, by simp [read, Except.isOk, Except.toBool]⟩
  · rintro ⟨leaf, _, same, read⟩
    refine ⟨leaf, same, ?_⟩
    cases found : leaf.read.run setting with
    | error fault => simp [found, Except.isOk, Except.toBool] at read
    | ok value => exact ⟨value, rfl⟩

mutual

/-- It can be told whether a setting holds known leaves only. -/
def Setting.decidableKnownAt (path : List String) :
    (setting : Setting) → Decidable (setting.KnownAt path)
  | .table entries _ =>
    letI := decidableKnownEntries path entries
    inferInstanceAs (Decidable (IsGroup path ∧ KnownEntries path entries))
  | .scalar value origin => decidable_of_iff' _ (exists_leaf_iff path (.scalar value origin))
  | .list items origin => decidable_of_iff' _ (exists_leaf_iff path (.list items origin))

/-- It can be told whether the entries of a table hold known leaves only. -/
def decidableKnownEntries (path : List String) :
    (entries : List (String × Setting)) → Decidable (KnownEntries path entries)
  | [] => .isTrue trivial
  | (key, setting) :: rest =>
    letI := setting.decidableKnownAt (path ++ [key])
    letI := decidableKnownEntries path rest
    inferInstanceAs (Decidable (setting.KnownAt (path ++ [key]) ∧ KnownEntries path rest))

end

instance (layer : List (String × Setting)) : Decidable (KnownLayer layer) :=
  decidableKnownEntries [] (layer.map unfoldedEntry)

/-- The setting that a layer has for a leaf, which is the last one. -/
def Leaf.given? (leaf : Leaf) (layer : List (String × Setting)) : Option Setting :=
  (entryAssignments [] (layer.map unfoldedEntry)).reverse.lookup leaf.path

section

variable {path names : List String} {key : String} {setting : Setting}
  {entries source : List (String × Setting)} {leaf : Leaf}

/-- Entries are known exactly if each of them is. -/
theorem knownEntries_iff :
    KnownEntries path entries ↔ ∀ entry ∈ entries, entry.2.KnownAt (path ++ [entry.1]) := by
  -- Both sides speak of the first entry and of the rest.
  induction entries with
  | nil => simp [KnownEntries]
  | cons entry entries ih =>
    rcases entry with ⟨key, setting⟩
    simp [KnownEntries, ih]

/-- Nothing lies below a leaf. -/
theorem not_isGroup_leaf (leaf : Leaf) : ¬ IsGroup leaf.path := by
  -- A leaf whose path begins with another one's is that other leaf.
  rintro ⟨other, below, different⟩
  exact different (congrArg Leaf.path (Leaf.eq_of_prefix below))

/-- A table that is known stands at a group. -/
theorem Setting.KnownAt.table {origin : Option String}
    (known : (Setting.table entries origin).KnownAt path) :
    IsGroup path ∧ KnownEntries path entries := by
  simpa [KnownAt] using known

/-- What is known is a table with known entries, or something else that a leaf can have. -/
theorem Setting.KnownAt.cases (known : setting.KnownAt path) :
    (∃ entries origin, setting = .table entries origin ∧ IsGroup path ∧
      KnownEntries path entries) ∨
    (setting.assignments path = [(path, setting)] ∧ (∀ key entries,
        setting.onto key entries = Association.put (lowerKey key) setting entries) ∧
      ∃ leaf : Leaf, leaf.path = path ∧ ∃ value, leaf.read.run setting = .ok value) := by
  -- Only a table has more below it, and everything else is a value of a leaf.
  cases setting with
  | table entries origin => exact .inl ⟨entries, origin, rfl, known.table⟩
  | scalar value origin =>
    exact .inr ⟨by simp [assignments], fun _ _ => by simp [onto], by simpa [KnownAt] using known⟩
  | list items origin =>
    exact .inr ⟨by simp [assignments], fun _ _ => by simp [onto], by simpa [KnownAt] using known⟩

/-- What is known stands on the way to a leaf. -/
theorem Setting.KnownAt.prefix_path (known : setting.KnownAt path) :
    ∃ leaf : Leaf, path <+: leaf.path := by
  rcases known.cases with ⟨_, _, _, ⟨leaf, below, _⟩, _⟩ | ⟨_, _, leaf, same, _⟩
  · exact ⟨leaf, below⟩
  · exact ⟨leaf, same ▸ List.prefix_refl _⟩

/-- A key of something known is in lower case. -/
theorem Setting.KnownAt.lowerKey (known : setting.KnownAt (path ++ [key])) :
    lowerKey key = key := by
  obtain ⟨leaf, below⟩ := known.prefix_path
  exact (Leaf.name_plain (below.subset (by simp))).1

mutual

/-- What is assigned by a setting lies below its path. -/
theorem prefix_of_mem_assignments (path : List String) {assignment : List String × Setting} :
    (setting : Setting) → assignment ∈ setting.assignments path → path <+: assignment.1
  | .scalar _ _, member | .list _ _, member => by
    simp only [Setting.assignments, List.mem_singleton] at member
    simp [member]
  | .table entries _, member => prefix_of_mem_entryAssignments path entries member

/-- What is assigned by the entries of a table lies below its path. -/
theorem prefix_of_mem_entryAssignments (path : List String)
    {assignment : List String × Setting} :
    (entries : List (String × Setting)) → assignment ∈ entryAssignments path entries →
      path <+: assignment.1
  | [], member => by simp [entryAssignments] at member
  | (key, setting) :: rest, member => by
    rcases List.mem_append.mp member with first | later
    · exact (List.prefix_append _ _).trans (prefix_of_mem_assignments (path ++ [key]) setting first)
    · exact prefix_of_mem_entryAssignments path rest later

end

/-- A setting assigns nothing to what does not lie below its path. -/
theorem lookup_assignments_of_not_prefix {other : List String} (apart : ¬ path <+: other)
    (setting : Setting) : (setting.assignments path).reverse.lookup other = none := by
  -- Everything that is assigned lies below the path.
  rw [List.lookup_eq_none_iff]
  intro assignment member
  simp only [bne_iff_ne, ne_eq]
  rintro rfl
  exact apart (prefix_of_mem_assignments path setting (List.mem_reverse.mp member))

/-- A leaf below a group lies further down. -/
theorem rest_of_group {rest : List String} (way : leaf.path = path ++ key :: rest)
    (group : IsGroup (path ++ [key])) : ∃ name more, rest = name :: more := by
  -- Otherwise the group would be the leaf itself.
  cases rest with
  | nil => exact absurd (way ▸ group) (not_isGroup_leaf leaf)
  | cons name more => exact ⟨name, more, rfl⟩

/-- Putting a setting under a key changes nothing under another one. -/
theorem lookup_onto_ne {other : String} (different : other ≠ lowerKey key) (setting : Setting)
    (entries : List (String × Setting)) :
    (setting.onto key entries).lookup other = entries.lookup other := by
  rcases setting with _ | _ | ⟨_ | ⟨first, more⟩, origin⟩ <;>
    simp [Setting.onto, Association.lookup_put, different]

mutual

/-- Below the key that a known setting is put at, the leaves that it assigns are as it says, and
the others are as they were. -/
theorem lookup_onto_at? {path rest : List String} {key : String} {leaf : Leaf}
    (way : leaf.path = path ++ key :: rest) (entries : List (String × Setting)) :
    (setting : Setting) → setting.KnownAt (path ++ [key]) →
      ((setting.onto key entries).lookup key).bind (Setting.at? rest) =
        ((setting.assignments (path ++ [key])).reverse.lookup leaf.path).or
          ((entries.lookup key).bind (Setting.at? rest))
  | .scalar value origin, known | .list value origin, known => by
    -- A leaf was put there, so it is the one that is looked for.
    obtain ⟨other, same, _⟩ : ∃ leaf : Leaf, leaf.path = path ++ [key] ∧ _ := by
      simpa only [Setting.KnownAt] using known
    have whole : rest = [] := by
      have below : other.path <+: leaf.path := by
        rw [same, way]
        exact ⟨rest, by simp⟩
      rw [Leaf.eq_of_prefix below, way] at same
      simpa using same
    subst whole
    -- The setting is put in place of what was there, which may be a table.
    simp [Setting.onto, Setting.assignments, known.lowerKey, Association.lookup_put, way,
      Setting.at?]
  | .table [] origin, known => by
    -- An empty table leaves what was there, or is put there and holds no leaf.
    obtain ⟨name, more, rfl⟩ := rest_of_group way known.table.1
    simp only [Setting.onto, known.lowerKey, Association.lookup_put]
    cases entries.lookup key <;>
      simp [Setting.assignments, entryAssignments, Setting.at?, Setting.asTable]
  | .table (first :: more) origin, known => by
    obtain ⟨group, inner⟩ := known.table
    obtain ⟨name, further, rfl⟩ := rest_of_group way group
    -- The entries go over those of the table that was there.
    have below : leaf.path = (path ++ [key]) ++ name :: further := by simp [way]
    have within := lookup_settingsOnto_at? below (first :: more)
      ((entries.lookup key).getD (.table [] none)).asTable.1 inner
    simp only [Setting.onto, known.lowerKey, Association.lookup_put, Setting.assignments]
    simp only [beq_self_eq_true, if_true, Option.bind_some, Setting.at?, Setting.asTable]
      at within ⊢
    rw [within]
    cases entries.lookup key <;> simp

/-- In a table that known entries are put into, the leaves that they assign are as they say, and the
others are as they were. -/
theorem lookup_settingsOnto_at? {path rest : List String} {name : String} {leaf : Leaf}
    (way : leaf.path = path ++ name :: rest) :
    (source entries : List (String × Setting)) → KnownEntries path source →
      ((settingsOnto source entries).lookup name).bind (Setting.at? rest) =
        ((entryAssignments path source).reverse.lookup leaf.path).or
          ((entries.lookup name).bind (Setting.at? rest))
  | [], entries, _ => by simp [settingsOnto, entryAssignments]
  | (key, setting) :: source, entries, known => by
    obtain ⟨here, others⟩ := known
    -- An entry under another key changes nothing here and assigns nothing to the leaf.
    have first : ((setting.onto key entries).lookup name).bind (Setting.at? rest) =
        ((setting.assignments (path ++ [key])).reverse.lookup leaf.path).or
          ((entries.lookup name).bind (Setting.at? rest)) := by
      by_cases same : key = name
      · subst same
        exact lookup_onto_at? way entries setting here
      · have apart : ¬ path ++ [key] <+: leaf.path := by
          rw [way, List.prefix_append_right_inj, List.cons_prefix_cons]
          exact fun both => same both.1
        rw [lookup_onto_ne (by rw [here.lowerKey]; exact Ne.symm same),
          lookup_assignments_of_not_prefix apart, Option.none_or]
    -- What the later entries assign comes first, since the last assignment decides.
    rw [settingsOnto, lookup_settingsOnto_at? way source _ others, first, entryAssignments,
      List.reverse_append, List.lookup_append, Option.or_assoc]

end

/-- Known settings under a key stay known among the entries that they are put into. -/
theorem knownEntries_put (known : setting.KnownAt (path ++ [key]))
    (others : KnownEntries path entries) :
    KnownEntries path (Association.put key setting entries) := by
  -- An entry is the new one, or was there before.
  rw [knownEntries_iff] at others ⊢
  intro entry member
  rcases Association.mem_put member with rfl | before
  · exact known
  · exact others entry before

/-- What is found among known entries is known. -/
theorem KnownEntries.lookup (known : KnownEntries path entries)
    (found : entries.lookup key = some setting) : setting.KnownAt (path ++ [key]) := by
  obtain ⟨before, after, rfl, _⟩ := List.lookup_eq_some_iff.mp found
  exact knownEntries_iff.mp known (key, setting) (by simp)

/-- The entries of a known table, or of none, are known. -/
theorem KnownEntries.asTable (known : KnownEntries path entries) (key : String) :
    KnownEntries (path ++ [key]) ((entries.lookup key).getD (.table [] none)).asTable.1 := by
  -- Without a table there is nothing that could be unknown.
  cases found : entries.lookup key with
  | none => trivial
  | some setting =>
    cases setting with
    | table inner origin => exact (known.lookup found).table.2
    | scalar | list => trivial

mutual

/-- A known setting that is put among known entries leaves them known. -/
theorem knownEntries_onto {path : List String} {key : String}
    {entries : List (String × Setting)} (others : KnownEntries path entries) :
    (setting : Setting) → setting.KnownAt (path ++ [key]) →
      KnownEntries path (setting.onto key entries)
  | .scalar value origin, known | .list value origin, known => by
    simp only [Setting.onto, known.lowerKey]
    exact knownEntries_put known others
  | .table [] origin, known => by
    simp only [Setting.onto, known.lowerKey]
    -- The table stands there if nothing else did.
    refine knownEntries_put ?_ others
    cases found : entries.lookup key with
    | none => exact known
    | some setting => exact others.lookup found
  | .table (first :: more) origin, known => by
    simp only [Setting.onto, known.lowerKey]
    refine knownEntries_put ⟨known.table.1, ?_⟩ others
    exact knownEntries_settingsOnto (first :: more) _ known.table.2 (others.asTable key)

/-- Known entries that are put among known ones leave them known. -/
theorem knownEntries_settingsOnto {path : List String} :
    (source entries : List (String × Setting)) → KnownEntries path source →
      KnownEntries path entries → KnownEntries path (settingsOnto source entries)
  | [], _, _, others => others
  | (_, setting) :: source, _, known, others =>
    knownEntries_settingsOnto source _ known.2 (knownEntries_onto others setting known.1)

end

/-- Tables that lead to a setting go into what stands under a key. -/
theorem onto_nested {name : String} (rest : List String)
    (lower : lowerKey key = key) (value : Setting) (entries : List (String × Setting)) :
    (value.nested (name :: rest)).onto key entries =
      Association.put key
        (.table (settingsOnto [(name, value.nested rest)]
            ((entries.lookup key).getD .absent).asTable.1)
          ((entries.lookup key).getD .absent).asTable.2) entries := by
  -- The outermost table has one entry, and so goes over the table that was there.
  show (Setting.table [(name, value.nested rest)] none).onto key entries = _
  simp only [Setting.onto, lower]
  cases entries.lookup key <;> rfl

/-- A setting that is no table is put where names lead, whatever was there. -/
theorem onto_nested_eq_withAt {value : Setting} {first : String} {names : List String}
    (plain : ∀ key entries, value.onto key entries =
      Association.put (lowerKey key) value entries)
    (lower : ∀ name ∈ first :: names, lowerKey name = name) (entries : List (String × Setting))
    (origin : Option String) :
    Setting.table ((value.nested names).onto first entries) origin =
      (Setting.table entries origin).withAt (first :: names) value := by
  -- Along the names, both make one table after the other, and at their end they put the setting.
  obtain ⟨here, others⟩ := List.forall_mem_cons.mp lower
  induction names generalizing first entries origin with
  | nil =>
    rw [Setting.withAt_cons]
    simp [Setting.nested, plain, here, Setting.asTable]
  | cons name names ih =>
    obtain ⟨next, further⟩ := List.forall_mem_cons.mp others
    rw [onto_nested names here, settingsOnto, settingsOnto,
      ih others ((entries.lookup first).getD .absent).asTable.1
        ((entries.lookup first).getD .absent).asTable.2 next further]
    rfl

/-- Putting a setting over a part under names is putting the tables that lead to it. -/
theorem changeAt_setPart {name last : String} {front rest : List String}
    (names : name :: rest = front ++ [last]) (lower : ∀ name ∈ front, lowerKey name = name)
    (value setting : Setting) :
    KeyPath.changeAt (KeyPath.setPart value (.key last)) (front.map .key) setting =
      .table (settingsOnto [(name, value.nested rest)] setting.asTable.1) setting.asTable.2 := by
  induction front generalizing setting name rest with
  | nil =>
    obtain ⟨rfl, rfl⟩ := List.cons.inj names
    simp [KeyPath.changeAt, KeyPath.setPart, settingsOnto, Setting.nested]
  | cons first front ih =>
    obtain ⟨here, others⟩ := List.forall_mem_cons.mp lower
    obtain ⟨rfl, further⟩ := List.cons.inj names
    -- The next table takes the further names.
    cases rest with
    | nil => simp at further
    | cons next rest =>
      rw [List.map_cons, KeyPath.changeAt, settingsOnto, settingsOnto, onto_nested rest here,
        ← ih further others]

/-- A path of names puts the tables that lead to its setting under its first name. -/
theorem set_eq_onto {first : String} {names : List String}
    (lower : ∀ name ∈ first :: names, lowerKey name = name) (value : Setting)
    (entries : List (String × Setting)) :
    (KeyPath.mk first (names.map .key)).set value entries =
      (value.nested names).onto first entries := by
  -- A path of one name puts its setting directly, and a longer one changes a part further down.
  obtain ⟨here, others⟩ := List.forall_mem_cons.mp lower
  cases names with
  | nil => rfl
  | cons name rest =>
    obtain ⟨front, last, split⟩ : ∃ front last, name :: rest = front ++ [last] :=
      ⟨(name :: rest).dropLast, (name :: rest).getLast (by simp),
        (List.dropLast_concat_getLast _).symm⟩
    rw [onto_nested rest here,
      ← changeAt_setPart split fun name member => others name (by simp [split, member])]
    simp [KeyPath.set, split]

/-- The steps of a path whose names are those of keys are keys. -/
theorem steps_eq_map_key {steps : List KeyStep}
    (plain : ∀ name ∈ steps.map KeyStep.name, name.toList.head? ≠ some '[') :
    (steps.map KeyStep.name).map .key = steps := by
  -- A name that does not look like a position is that of a key.
  induction steps with
  | nil => rfl
  | cons step steps ih =>
    obtain ⟨here, others⟩ := List.forall_mem_cons.mp plain
    rw [List.map_cons, List.map_cons, ih others]
    cases step with
    | key name => rfl
    | index position => simp [KeyStep.name] at here

/-- What is known behind names is known where they lead. -/
theorem Setting.KnownAt.of_nested (known : (setting.nested names).KnownAt path) :
    setting.KnownAt (path ++ names) := by
  -- Each table around it has one entry, which is known one name further down.
  induction names generalizing path with
  | nil => simpa [nested] using known
  | cons name names ih =>
    have inner : (setting.nested names).KnownAt (path ++ [name]) := known.table.2.1
    simpa using ih inner

/-- Layering known entries is putting them into each other with tables for the steps of their keys.
-/
theorem layered_known (known : KnownLayer source) (entries : List (String × Setting)) :
    layered source entries = settingsOnto (source.map unfoldedEntry) entries := by
  induction source generalizing entries with
  | nil => rfl
  | cons entry source ih =>
    rcases entry with ⟨key, setting⟩
    obtain ⟨here, others⟩ : (setting.nested ((KeyPath.ofKey key).steps.map KeyStep.name)).KnownAt
        ([] ++ [(KeyPath.ofKey key).first]) ∧ KnownLayer source := known
    obtain ⟨leaf, below⟩ := here.of_nested.prefix_path
    -- All names on the way are names of keys, in the case that they are compared in.
    have plain : ∀ name ∈ (KeyPath.ofKey key).first :: (KeyPath.ofKey key).steps.map KeyStep.name,
        lowerKey name = name ∧ name.toList.head? ≠ some '[' :=
      fun name member => leaf.name_plain (below.subset (by simpa using member))
    have put := set_eq_onto (fun name member => (plain name member).1) setting entries
    rw [steps_eq_map_key fun name member => (plain name (.tail _ member)).2] at put
    show layered source ((KeyPath.ofKey key).set setting entries) = _
    rw [ih others, put]
    -- Putting the tables is the first step of putting all entries.
    rfl

/-- A known layer over known entries leaves known ones. -/
theorem KnownLayer.layered (known : KnownLayer source) (before : KnownEntries [] entries) :
    KnownEntries [] (layered source entries) := by
  rw [layered_known known]
  exact knownEntries_settingsOnto _ _ known before

/-- A known layer decides over the leaves that it sets, and leaves the others as they were. -/
theorem KnownLayer.at?_layered (known : KnownLayer source) (leaf : Leaf)
    (entries : List (String × Setting)) (origin : Option String) :
    (Setting.table (ContentClasses.layered source entries) origin).at? leaf.path =
      (leaf.given? source).or ((Setting.table entries origin).at? leaf.path) := by
  -- The names of the steps make the layer a table, in which the leaf is looked for.
  obtain ⟨name, rest, way⟩ := leaf.exists_path
  have found := lookup_settingsOnto_at? (show leaf.path = [] ++ name :: rest from way)
    (source.map unfoldedEntry) entries known
  rw [layered_known known, Leaf.given?]
  simpa only [way, Setting.at?, Setting.asTable] using found

end

end ContentClasses
