import ContentClasses.Java.Imports

/-! The table of simple names only grows: a name keeps the text that it was given, and the import
lines are the names that got their simple name and are not in scope anyway. -/

namespace ContentClasses.Java

section

variable {separator : Char} {before after text : List Char}

/-- A text without separator is not cut. -/
theorem cutAtLast_plain (plain : separator ∉ text) : cutAtLast separator text = none := by
  -- No character of the text is a separator.
  induction text with
  | nil => rfl
  | cons c rest ih =>
    rw [List.mem_cons, not_or] at plain
    simp [cutAtLast, ih plain.2, Ne.symm plain.1]

/-- A text is cut at a separator behind which there is none. -/
theorem cutAtLast_append_cons (before : List Char) (plain : separator ∉ after) :
    cutAtLast separator (before ++ separator :: after) = some (before, after) := by
  -- The cut of the rest is that of the whole text.
  induction before with
  | nil => simp [cutAtLast, cutAtLast_plain plain]
  | cons c before ih => simp [cutAtLast, ih]

/-- The two parts of a text stand around a separator. -/
theorem eq_of_cutAtLast (cut : cutAtLast separator text = some (before, after)) :
    text = before ++ separator :: after := by
  -- A cut in the rest wins, so the first character is cut at only if there is none.
  induction text generalizing before with
  | nil => cases cut
  | cons c rest ih =>
    rw [cutAtLast] at cut
    split at cut
    · rename_i later
      cases cut
      rw [ih later, List.cons_append]
    · split at cut
      · rename_i here
        cases cut
        rw [here, List.nil_append]
      · cases cut

end

variable {qualified package name : String}

/-- A name without dot is its own simple name. -/
theorem simpleName_plain (plain : '.' ∉ name.toList) : simpleName name = name := by
  rw [simpleName, cutAtLast_plain plain]

/-- A name without dot is in the unnamed package. -/
theorem packageOf_plain (plain : '.' ∉ name.toList) : packageOf name = "" := by
  rw [packageOf, cutAtLast_plain plain]

/-- A qualified name is cut into the package and the class that it is made from. -/
theorem cutAtLast_qualify (named : package ≠ "") (plain : '.' ∉ name.toList) :
    cutAtLast '.' (qualify package name).toList = some (package.toList, name.toList) := by
  -- In a named package the dot between them is the last one.
  have joined : (qualify package name).toList = package.toList ++ '.' :: name.toList := by
    simp [qualify, named]
  rw [joined, cutAtLast_append_cons _ plain]

/-- The simple name of a class in a package is the name of the class. -/
theorem simpleName_qualify (plain : '.' ∉ name.toList) :
    simpleName (qualify package name) = name := by
  -- Without a package the qualified name is the name itself.
  by_cases named : package = ""
  · simpa [qualify, named] using simpleName_plain plain
  · simp [simpleName, cutAtLast_qualify named plain]

/-- The package of a class in a package is that package. -/
theorem packageOf_qualify (plain : '.' ∉ name.toList) :
    packageOf (qualify package name) = package := by
  -- Without a package there is no dot to cut at.
  by_cases named : package = ""
  · simpa [qualify, named] using packageOf_plain plain
  · simp [packageOf, cutAtLast_qualify named plain]

/-- A name in a named package is longer than its simple name. -/
theorem simpleName_ne (named : packageOf qualified ≠ "") : simpleName qualified ≠ qualified := by
  rw [packageOf] at named
  rw [simpleName]
  split
  · rename_i before after cut
    intro same
    -- Behind the last dot the text is shorter, by that dot at least.
    have length : qualified.toList.length = before.length + 1 + after.length := by
      rw [eq_of_cutAtLast cut]
      simp
      omega
    rw [← same, String.toList_ofList] at length
    omega
  · -- A name without package is not asked about.
    rename_i whole
    rw [whole] at named
    exact absurd rfl named

namespace Imports

variable {imports later : Imports}

/-- Whether a class of the package hides a type of `java.lang`. -/
def hides (imports : Imports) (qualified : String) : Prop :=
  packageOf qualified = "java.lang" ∧ simpleName qualified ∈ imports.siblings

/-- The qualified names that a table has given their simple names. -/
def holders (imports : Imports) : List String :=
  imports.bound.map (·.2)

/-- Every entry leads from the simple name of its holder, and no two holders share theirs. -/
structure Sound (imports : Imports) : Prop where
  named : ∀ entry ∈ imports.bound, entry.1 = simpleName entry.2
  single : (imports.bound.map (·.1)).Nodup

/-- A later state of a table has the same surroundings, and more entries behind the earlier ones. -/
structure Grows (imports later : Imports) : Prop where
  package_eq : later.package = imports.package
  siblings_eq : later.siblings = imports.siblings
  bound_prefix : imports.bound <+: later.bound

/-- A table is a later state of itself. -/
theorem Grows.refl (imports : Imports) : imports.Grows imports :=
  ⟨rfl, rfl, List.prefix_rfl⟩

/-- A state that is later than a later one is later. -/
theorem Grows.trans {final : Imports} (first : imports.Grows later) (second : later.Grows final) :
    imports.Grows final :=
  ⟨second.package_eq.trans first.package_eq, second.siblings_eq.trans first.siblings_eq,
    first.bound_prefix.trans second.bound_prefix⟩

/-- What is hidden stays so. -/
theorem Grows.hides_iff (grown : imports.Grows later) :
    later.hides qualified ↔ imports.hides qualified := by
  rw [hides, hides, grown.siblings_eq]

/-- A simple name keeps its holder. -/
theorem Grows.lookup {simple holder : String} (grown : imports.Grows later)
    (found : imports.bound.lookup simple = some holder) :
    later.bound.lookup simple = some holder := by
  obtain ⟨added, continued⟩ := grown.bound_prefix
  rw [← continued, List.lookup_append, found, Option.some_or]

/-- In a sound table a simple name leads to the only holder that ends in it. -/
theorem Sound.lookup_iff {simple holder : String} (sound : imports.Sound) :
    imports.bound.lookup simple = some holder ↔
      holder ∈ imports.holders ∧ simpleName holder = simple := by
  constructor
  · -- What is found is an entry, and entries are under the simple names of their holders.
    intro found
    obtain ⟨front, back, whole, -⟩ := List.lookup_eq_some_iff.mp found
    have member : (simple, holder) ∈ imports.bound := by simp [whole]
    exact ⟨List.mem_map.mpr ⟨_, member, rfl⟩, (sound.named _ member).symm⟩
  · rintro ⟨held, rfl⟩
    obtain ⟨⟨key, value⟩, member, rfl⟩ := List.mem_map.mp held
    obtain rfl : key = simpleName value := sound.named _ member
    obtain ⟨front, back, whole⟩ := List.append_of_mem member
    -- An entry in front of this one with the same simple name would be a second one.
    refine List.lookup_eq_some_iff.mpr ⟨front, back, whole, fun entry before => ?_⟩
    have single := sound.single
    rw [whole, List.map_append, List.map_cons, List.nodup_append] at single
    have apart := single.2.2 _ (List.mem_map_of_mem before) _ List.mem_cons_self
    simpa using Ne.symm apart

/-- A hidden name is written in full, and the table stays as it is. -/
theorem reference_hidden (hidden : imports.hides qualified) :
    imports.reference qualified = (qualified, imports) := by
  simp [reference, hidden.1, hidden.2]

/-- A name whose simple name is taken is written by it only if it is the holder. -/
theorem reference_taken {holder : String} (shown : ¬ imports.hides qualified)
    (found : imports.bound.lookup (simpleName qualified) = some holder) :
    imports.reference qualified =
      (if holder = qualified then simpleName qualified else qualified, imports) := by
  rw [hides] at shown
  simp [reference, shown, found]

/-- A name whose simple name is free takes it. -/
theorem reference_free (shown : ¬ imports.hides qualified)
    (free : imports.bound.lookup (simpleName qualified) = none) :
    imports.reference qualified =
      (simpleName qualified,
        { imports with bound := imports.bound ++ [(simpleName qualified, qualified)] }) := by
  rw [hides] at shown
  simp [reference, shown, free]

/-- A reference leaves the table alone, or it gives the name a simple name that was free. -/
theorem reference_table (imports : Imports) (qualified : String) :
    ((imports.reference qualified).2 = imports ∧
        (imports.hides qualified ∨
          ∃ holder, imports.bound.lookup (simpleName qualified) = some holder)) ∨
      (imports.bound.lookup (simpleName qualified) = none ∧
        (imports.reference qualified).2 =
          { imports with bound := imports.bound ++ [(simpleName qualified, qualified)] }) := by
  -- A hidden name and a taken simple name leave the table as it is.
  by_cases hidden : imports.hides qualified
  · exact .inl ⟨by rw [reference_hidden hidden], .inl hidden⟩
  · cases found : imports.bound.lookup (simpleName qualified) with
    | some holder => exact .inl ⟨by rw [reference_taken hidden found], .inr ⟨holder, rfl⟩⟩
    | none => exact .inr ⟨rfl, by rw [reference_free hidden found]⟩

/-- The table after a reference is a later state of it. -/
theorem grows_reference (imports : Imports) (qualified : String) :
    imports.Grows (imports.reference qualified).2 := by
  -- An entry is added at the end, if at all.
  obtain ⟨same, -⟩ | ⟨-, added⟩ := imports.reference_table qualified
  · rw [same]
    exact Grows.refl imports
  · rw [added]
    exact ⟨rfl, rfl, List.prefix_append _ _⟩

/-- Only the name that is asked for can become a holder. -/
theorem mem_holders_reference {holder : String}
    (held : holder ∈ (imports.reference qualified).2.holders) :
    holder ∈ imports.holders ∨ holder = qualified := by
  -- An entry that is added is for the name that is asked for.
  obtain ⟨same, -⟩ | ⟨-, added⟩ := imports.reference_table qualified
  · exact .inl (same ▸ held)
  · rw [added] at held
    simpa [holders] using held

/-- A reference to a name that is not hidden leaves its simple name with a holder. -/
theorem lookup_reference (shown : ¬ imports.hides qualified) :
    ∃ holder,
      (imports.reference qualified).2.bound.lookup (simpleName qualified) = some holder := by
  -- The simple name is taken already, or it is free and given to this name.
  obtain ⟨same, hidden | taken⟩ | ⟨free, added⟩ := imports.reference_table qualified
  · exact absurd hidden shown
  · rwa [same]
  · rw [added]
    exact ⟨qualified, by simp [List.lookup_append, free]⟩

/-- A reference keeps a table sound. -/
theorem Sound.reference (sound : imports.Sound) (qualified : String) :
    (imports.reference qualified).2.Sound := by
  -- Only a name whose simple name was free comes into the table.
  obtain ⟨same, -⟩ | ⟨free, added⟩ := imports.reference_table qualified
  · rwa [same]
  · rw [added]
    constructor
    · intro entry member
      rcases List.mem_append.mp member with member | member
      · exact sound.named entry member
      · rw [List.mem_singleton.mp member]
    · -- The new key is none of those in the table, where it was not found.
      rw [List.map_append, List.nodup_append]
      refine ⟨sound.single, by simp, ?_⟩
      intro key taken other new same
      obtain ⟨entry, member, rfl⟩ := List.mem_map.mp taken
      obtain rfl : other = simpleName qualified := by simpa using new
      have different := List.lookup_eq_none_iff.mp free entry member
      simp [same] at different

/-- The text for a name is the same in all later states of the table. -/
theorem reference_settled (grown : (imports.reference qualified).2.Grows later) :
    (later.reference qualified).1 = (imports.reference qualified).1 := by
  have whole := (imports.grows_reference qualified).trans grown
  by_cases hidden : imports.hides qualified
  · rw [reference_hidden hidden, reference_hidden (whole.hides_iff.mpr hidden)]
  · have shown : ¬ later.hides qualified := fun other => hidden (whole.hides_iff.mp other)
    cases found : imports.bound.lookup (simpleName qualified) with
    | some holder =>
      rw [reference_taken hidden found, reference_taken shown (whole.lookup found)]
    | none =>
      -- The name became the holder itself, and it still is.
      rw [reference_free hidden found] at grown ⊢
      have taken : later.bound.lookup (simpleName qualified) = some qualified :=
        grown.lookup (by simp [List.lookup_append, found])
      rw [reference_taken shown taken, if_pos rfl]

/-- In a sound table, a name whose simple name is taken has it as its text if it is the holder. -/
theorem Sound.reference_eq_simpleName_iff {holder : String} (sound : imports.Sound)
    (shown : ¬ imports.hides qualified) (named : packageOf qualified ≠ "")
    (found : imports.bound.lookup (simpleName qualified) = some holder) :
    (imports.reference qualified).1 = simpleName qualified ↔ qualified ∈ imports.holders := by
  rw [reference_taken shown found]
  by_cases held : holder = qualified
  · rw [held] at found
    simpa [held] using (sound.lookup_iff.mp found).1
  · -- The text in full is no simple name, and a second holder would have been found instead.
    have longer : qualified ≠ simpleName qualified := Ne.symm (simpleName_ne named)
    simp only [held, ↓reduceIte, longer, false_iff]
    intro member
    have other := sound.lookup_iff.mpr ⟨member, rfl⟩
    rw [found] at other
    exact held (Option.some.inj other)

section

variable {names : List String}

/-- The first name is asked for before the others. -/
theorem references_cons (imports : Imports) (first : String) (rest : List String) :
    imports.references (first :: rest) =
      ((imports.reference first).1 :: ((imports.reference first).2.references rest).1,
        ((imports.reference first).2.references rest).2) :=
  rfl

/-- Names are asked for from left to right. -/
theorem references_append (imports : Imports) (front back : List String) :
    imports.references (front ++ back) =
      ((imports.references front).1 ++ ((imports.references front).2.references back).1,
        ((imports.references front).2.references back).2) := by
  -- The table is handed on from name to name.
  induction front generalizing imports with
  | nil => rfl
  | cons first rest ih => simp only [List.cons_append, references_cons, ih]

/-- The table after a list of names is a later state of it. -/
theorem grows_references (imports : Imports) (names : List String) :
    imports.Grows (imports.references names).2 := by
  -- Each reference leads to a later state.
  induction names generalizing imports with
  | nil => exact Grows.refl imports
  | cons first rest ih => exact (imports.grows_reference first).trans (ih _)

/-- A list of names keeps a table sound. -/
theorem Sound.references (sound : imports.Sound) (names : List String) :
    (imports.references names).2.Sound := by
  -- Each reference keeps the table sound.
  induction names generalizing imports with
  | nil => exact sound
  | cons first rest ih => exact ih (sound.reference first)

/-- Only the names that are asked for can become holders. -/
theorem mem_holders_references {holder : String}
    (held : holder ∈ (imports.references names).2.holders) :
    holder ∈ imports.holders ∨ holder ∈ names := by
  -- A holder was there at the start or has come in with one of the references.
  induction names generalizing imports with
  | nil => exact .inl held
  | cons first rest ih =>
    rcases ih held with earlier | later
    · rcases mem_holders_reference earlier with before | rfl
      · exact .inl before
      · exact .inr List.mem_cons_self
    · exact .inr (List.mem_cons_of_mem first later)

/-- Every name that is asked for and not hidden leaves its simple name with a holder. -/
theorem lookup_references (asked : qualified ∈ names) (shown : ¬ imports.hides qualified) :
    ∃ holder, (imports.references names).2.bound.lookup (simpleName qualified) = some holder := by
  induction names generalizing imports with
  | nil => cases asked
  | cons first rest ih =>
    have next := imports.grows_reference first
    rcases List.mem_cons.mp asked with rfl | asked
    · -- The holder from the first reference stays through the others.
      obtain ⟨holder, found⟩ := lookup_reference shown
      exact ⟨holder, (grows_references _ rest).lookup found⟩
    · exact ih asked fun hidden => shown (next.hides_iff.mp hidden)

end

/-- A name has to be imported unless its package is in scope anyway. -/
theorem needsImport_iff : imports.needsImport qualified = true ↔
    packageOf qualified ≠ "" ∧ packageOf qualified ≠ "java.lang" ∧
      packageOf qualified ≠ imports.package := by
  simp [needsImport, and_assoc]

/-- A class of the package needs no import. -/
theorem not_needsImport_qualify (within : imports.package = package) (plain : '.' ∉ name.toList) :
    ¬ imports.needsImport (qualify package name) = true := by
  simp [needsImport, packageOf_qualify plain, within]

section

variable {hasFields : Bool} {mark : String}

/-- The lines are the holders that need an import, without the element annotation where there are no
fields. -/
theorem mem_lines : qualified ∈ imports.lines hasFields mark ↔
    qualified ∈ imports.holders ∧ imports.needsImport qualified = true ∧
      (hasFields = true ∨ qualified ≠ mark) := by
  simp [lines, holders]

/-- No two lines have the same simple name. -/
theorem Sound.nodup_lines (sound : imports.Sound) (hasFields : Bool) (mark : String) :
    ((imports.lines hasFields mark).map simpleName).Nodup := by
  have keys : imports.bound.map (·.1) = imports.holders.map simpleName := by
    rw [holders, List.map_map]
    exact List.map_congr_left sound.named
  have single := sound.single
  rw [keys] at single
  -- Sorting permutes the lines, and filtering only leaves some out.
  have sorted := (List.mergeSort_perm (imports.holders.filter fun qualified =>
    imports.needsImport qualified && (hasFields || qualified != mark)) (· ≤ ·)).map simpleName
  exact sorted.nodup_iff.mpr (single.sublist (List.filter_sublist.map simpleName))

/-- The lines are in strictly increasing order. -/
theorem Sound.increasing_lines (sound : imports.Sound) (hasFields : Bool) (mark : String) :
    (imports.lines hasFields mark).Pairwise (· < ·) := by
  have ordered : (imports.lines hasFields mark).Pairwise (· ≤ ·) := by
    have sorted (names : List String) :
        names.mergeSort.Pairwise fun left right => decide (left ≤ right) = true :=
      List.pairwise_mergeSort (by simpa using fun _ _ _ => String.le_trans)
        (by simpa using String.le_total) names
    exact (sorted _).imp of_decide_eq_true
  -- Lines that are equal would have the same simple name.
  refine ordered.imp₂ (fun left right below different => ?_)
    (List.pairwise_map.mp (sound.nodup_lines hasFields mark))
  rw [← String.not_le]
  exact fun above => different (congrArg simpleName (String.le_antisymm below above))

end

section

variable {className : String} {siblings names : List String}

/-- The table for a new class is sound. -/
theorem sound_start (plain : '.' ∉ className.toList) :
    (start package className siblings).Sound := by
  -- The class itself is the only entry.
  constructor
  · simp [start, simpleName_qualify plain]
  · simp [start]

/-- The first name that needs an import is written by its simple name unless the class owns that. -/
theorem reference_start_eq_simpleName_iff (plain : '.' ∉ className.toList)
    (needed : (start package className siblings).needsImport qualified = true) :
    ((start package className siblings).reference qualified).1 = simpleName qualified ↔
      simpleName qualified ≠ className := by
  obtain ⟨named, foreign, -⟩ := needsImport_iff.mp needed
  have shown : ¬ (start package className siblings).hides qualified := fun hidden =>
    foreign hidden.1
  by_cases taken : simpleName qualified = className
  · -- The holder is the class, which is no name that needs an import.
    have found : (start package className siblings).bound.lookup (simpleName qualified) =
        some (qualify package className) := by
      simp [start, taken]
    rw [(sound_start plain).reference_eq_simpleName_iff shown named found]
    refine iff_of_false (fun held => ?_) (fun different => different taken)
    obtain rfl : qualified = qualify package className := by simpa [holders, start] using held
    exact not_needsImport_qualify rfl plain needed
  · -- No other entry is there, so the name gets its simple name.
    have free : (start package className siblings).bound.lookup (simpleName qualified) = none := by
      simp [start, List.lookup_cons, beq_false_of_ne taken]
    simp [reference_free shown free, taken]

/-- No line has the simple name of the class. -/
theorem not_mem_lines (plain : '.' ∉ className.toList) (hasFields : Bool) (mark : String) :
    className ∉ (((start package className siblings).references names).2.lines hasFields
      mark).map simpleName := by
  have grown := (start package className siblings).grows_references names
  have sound : ((start package className siblings).references names).2.Sound :=
    (sound_start plain).references names
  rw [List.mem_map]
  rintro ⟨qualified, line, same⟩
  obtain ⟨held, needed, -⟩ := mem_lines.mp line
  -- The class itself holds its simple name, and it needs no import.
  have own : ((start package className siblings).references names).2.bound.lookup className =
      some (qualify package className) :=
    grown.lookup (by simp [start])
  rw [sound.lookup_iff.mpr ⟨held, same⟩] at own
  rw [Option.some.inj own] at needed
  exact not_needsImport_qualify grown.package_eq plain needed

/-- A name is imported if it was asked for, is written by its simple name and needs an import. -/
theorem mem_lines_references (plain : '.' ∉ className.toList) {hasFields : Bool} {mark : String} :
    let imports := ((start package className siblings).references names).2
    qualified ∈ imports.lines hasFields mark ↔
      qualified ∈ names ∧ (imports.reference qualified).1 = simpleName qualified ∧
        imports.needsImport qualified = true ∧ (hasFields = true ∨ qualified ≠ mark) := by
  intro imports
  have grown : (start package className siblings).Grows imports :=
    (start package className siblings).grows_references names
  have sound : imports.Sound := (sound_start plain).references names
  rw [mem_lines]
  constructor
  · -- What is imported holds its simple name, so that is how it is written.
    rintro ⟨held, needed, kept⟩
    obtain ⟨named, foreign, -⟩ := needsImport_iff.mp needed
    have written := (sound.reference_eq_simpleName_iff (fun hidden => foreign hidden.1) named
      (sound.lookup_iff.mpr ⟨held, rfl⟩)).mpr held
    refine ⟨?_, written, needed, kept⟩
    -- The only other holder is the class itself, which needs no import.
    rcases mem_holders_references held with own | asked
    · obtain rfl : qualified = qualify package className := by simpa [holders, start] using own
      exact absurd needed (not_needsImport_qualify grown.package_eq plain)
    · exact asked
  · -- A name that was asked for leaves its simple name with a holder, which is the name itself.
    rintro ⟨asked, written, needed, kept⟩
    obtain ⟨named, foreign, -⟩ := needsImport_iff.mp needed
    obtain ⟨holder, found⟩ : ∃ holder,
        imports.bound.lookup (simpleName qualified) = some holder :=
      lookup_references asked fun hidden => foreign hidden.1
    exact ⟨(sound.reference_eq_simpleName_iff (fun hidden => foreign hidden.1) named found).mp
      written, needed, kept⟩

end

end Imports

end ContentClasses.Java
