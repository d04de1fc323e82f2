/-! Values under keys, as lists of pairs in which the first pair with a key counts. -/

namespace ContentClasses.Association

variable {κ ν : Type} [BEq κ]

/-- Replaces the value under a key in place, or adds it at the end. -/
def put (key : κ) (value : ν) : List (κ × ν) → List (κ × ν)
  | [] => [(key, value)]
  | (other, old) :: rest =>
    if other == key then (key, value) :: rest else (other, old) :: put key value rest

/-- Putting a value under a key changes what is found there and nowhere else. -/
theorem lookup_put [LawfulBEq κ] {key other : κ} {value : ν} (entries : List (κ × ν)) :
    (put key value entries).lookup other =
      if other == key then some value else entries.lookup other := by
  -- Both lists are searched from the front, and they differ in one place only.
  induction entries with
  | nil => cases same : other == key <;> simp [put, List.lookup_cons, same]
  | cons head rest ih =>
    rcases head with ⟨first, old⟩
    -- If the first entry has the key, the new value stands there, and otherwise the search goes on.
    cases replaced : first == key with
    | true =>
      have same : first = key := eq_of_beq replaced
      subst same
      cases found : other == first <;> simp [put, List.lookup_cons, found]
    | false =>
      cases found : other == first with
      -- The entry that is looked for comes first in both lists.
      | true =>
        have same : other = first := eq_of_beq found
        subst same
        simp [put, replaced]
      | false => simp [put, List.lookup_cons, replaced, found, ih]

/-- An entry after a value was put there is the one that was put or was there before. -/
theorem mem_put {key : κ} {value : ν} {entries : List (κ × ν)} {entry : κ × ν}
    (member : entry ∈ put key value entries) : entry = (key, value) ∨ entry ∈ entries := by
  -- The first entry is replaced or kept, and then the others are as they were.
  induction entries with
  | nil => simpa [put] using member
  | cons head rest ih =>
    rcases head with ⟨other, old⟩
    simp only [put] at member
    split at member
    · exact (List.mem_cons.mp member).imp_right (.tail _)
    · rcases List.mem_cons.mp member with rfl | later
      · exact .inr (.head _)
      · exact (ih later).imp_right (.tail _)

/-- Of two values put under one key, the later one counts. -/
@[simp] theorem put_put [LawfulBEq κ] (key : κ) (earlier later : ν) (entries : List (κ × ν)) :
    put key later (put key earlier entries) = put key later entries := by
  -- The second value takes the place at which the first one was put.
  induction entries with
  | nil => simp [put]
  | cons head rest ih =>
    rcases head with ⟨other, old⟩
    cases replaced : other == key <;> simp [put, replaced, ih]

/-- Putting what is there already changes nothing. -/
theorem put_eq_self [LawfulBEq κ] {key : κ} {value : ν} {entries : List (κ × ν)}
    (there : entries.lookup key = some value) : put key value entries = entries := by
  -- The entry that is found is the one that is replaced, and by itself.
  induction entries with
  | nil => simp at there
  | cons head rest ih =>
    rcases head with ⟨other, old⟩
    by_cases found : key = other
    · subst found
      simp only [List.lookup_cons_self, Option.some.injEq] at there
      simp [put, there]
    · rw [List.lookup_cons, beq_false_of_ne found] at there
      simp [put, beq_false_of_ne (Ne.symm found), ih there]

/-- A value under a key that is there already can be put before or after one under another key. -/
theorem put_comm [LawfulBEq κ] {first second : κ} (apart : first ≠ second)
    {entries : List (κ × ν)} (there : (entries.lookup first).isSome = true) (left right : ν) :
    put second right (put first left entries) = put first left (put second right entries) := by
  -- Were the first key new, its entry would stand before or behind that of the second one.
  induction entries with
  | nil => simp at there
  | cons head rest ih =>
    rcases head with ⟨other, old⟩
    by_cases here : other = first
    · subst here
      simp [put, beq_false_of_ne apart]
    · rw [List.lookup_cons, beq_false_of_ne (Ne.symm here)] at there
      by_cases next : other = second
      · subst next
        simp [put, beq_false_of_ne here]
      · simp [put, beq_false_of_ne here, beq_false_of_ne next, ih there]

/-- A key that is put stays where it is, or comes last if it is new. -/
theorem map_fst_put [LawfulBEq κ] (key : κ) (value : ν) (entries : List (κ × ν)) :
    (put key value entries).map (·.1) =
      if key ∈ entries.map (·.1) then entries.map (·.1) else entries.map (·.1) ++ [key] := by
  -- The keys stay as they are, but for one that is put at the end if it was not there.
  induction entries with
  | nil => simp [put]
  | cons head rest ih =>
    rcases head with ⟨other, old⟩
    by_cases same : other = key
    · simp [put, same]
    · rw [put, if_neg (by simpa using same), List.map_cons, ih, List.map_cons]
      by_cases there : key ∈ rest.map (·.1)
      · rw [if_pos there, if_pos (.tail _ there)]
      · rw [if_neg there, if_neg (by simp [Ne.symm same, there]), List.cons_append]

/-- Putting a value under a key repeats none. -/
theorem nodup_put [LawfulBEq κ] {key : κ} {entries : List (κ × ν)}
    (distinct : (entries.map (·.1)).Nodup) (value : ν) :
    ((put key value entries).map (·.1)).Nodup := by
  -- A key is added only where it is missing.
  rw [map_fst_put]
  split
  · exact distinct
  · rename_i fresh
    refine List.nodup_append.mpr ⟨distinct, by simp, fun other member last added => ?_⟩
    rw [List.mem_singleton.mp added]
    rintro rfl
    exact fresh member

/-- Puts values under keys one after the other. -/
def putAll (changes entries : List (κ × ν)) : List (κ × ν) :=
  changes.foldl (fun entries (key, value) => put key value entries) entries

/-- The first of several changes is made before the others. -/
@[simp] theorem putAll_cons (key : κ) (value : ν) (changes entries : List (κ × ν)) :
    putAll ((key, value) :: changes) entries = putAll changes (put key value entries) :=
  rfl

/-- Under each key stands the last value that was put there, or what stood there before. -/
theorem lookup_putAll [LawfulBEq κ] (changes entries : List (κ × ν)) (key : κ) :
    (putAll changes entries).lookup key = (changes.reverse.lookup key).or (entries.lookup key) := by
  -- The first change counts only where no later one is made.
  induction changes generalizing entries with
  | nil => rfl
  | cons head changes ih =>
    rcases head with ⟨other, value⟩
    rw [putAll_cons, ih, lookup_put, List.reverse_cons, List.lookup_append, List.lookup_cons]
    cases key == other <;> simp

/-- One more key to be left out is left out of those that remain. -/
theorem removeAll_concat [LawfulBEq κ] (keys taken : List κ) (key : κ) :
    keys.removeAll (taken ++ [key]) = (keys.removeAll taken).filter (!· == key) := by
  -- To take one more key away is to look for it among those that are left.
  rw [List.removeAll, List.removeAll, List.filter_filter]
  refine List.filter_congr fun other _ => ?_
  simp only [List.elem_eq_contains, List.contains_append]
  simp [Bool.and_comm]

/-- The keys that were there before come first, and then the new ones in the order in which they
were first put. -/
theorem map_fst_putAll [LawfulBEq κ] (changes entries : List (κ × ν)) :
    (putAll changes entries).map (·.1) =
      entries.map (·.1) ++ ((changes.map (·.1)).removeAll (entries.map (·.1))).eraseDups := by
  -- A key is new only for the first of the changes under it.
  induction changes generalizing entries with
  | nil => simp [putAll]
  | cons head changes ih =>
    rcases head with ⟨key, value⟩
    rw [putAll_cons, ih, map_fst_put]
    by_cases there : key ∈ entries.map (·.1)
    · rw [if_pos there, List.map_cons, List.cons_removeAll, if_neg (by simpa using there)]
    · rw [if_neg there, List.map_cons, List.cons_removeAll, if_pos (by simpa using there),
        removeAll_concat, List.eraseDups_cons, List.append_assoc, List.singleton_append]

/-- Putting values under keys one after the other repeats no key. -/
theorem nodup_putAll [LawfulBEq κ] {entries : List (κ × ν)} (changes : List (κ × ν))
    (distinct : (entries.map (·.1)).Nodup) : ((putAll changes entries).map (·.1)).Nodup := by
  -- One change after the other leaves the keys distinct.
  induction changes generalizing entries with
  | nil => exact distinct
  | cons head changes ih => exact ih (nodup_put distinct head.2)

/-- A change under a key that is there already does not count before a later one of that key. -/
theorem putAll_put [LawfulBEq κ] {key : κ} {changes entries : List (κ × ν)}
    (there : (entries.lookup key).isSome = true) (again : key ∈ changes.map (·.1)) (value : ν) :
    putAll changes (put key value entries) = putAll changes entries := by
  -- It is moved behind the changes of other keys up to the one that replaces it.
  induction changes generalizing entries with
  | nil => simp at again
  | cons head changes ih =>
    rcases head with ⟨other, later⟩
    by_cases same : key = other
    · subst same
      simp
    · have rest : key ∈ changes.map (·.1) := by simpa [same] using again
      have still : ((put other later entries).lookup key).isSome = true := by
        rwa [lookup_put, if_neg (by simp [same])]
      rw [putAll_cons, putAll_cons, put_comm same there, ih still rest]

/-- Where no key is repeated, what is found under a key does not depend on the order. -/
theorem lookup_perm [LawfulBEq κ] {entries others : List (κ × ν)} (perm : entries.Perm others)
    (distinct : (entries.map (·.1)).Nodup) (key : κ) : entries.lookup key = others.lookup key := by
  -- Two lists are compared along the exchanges that lead from one to the other.
  induction perm with
  | nil => rfl
  | cons head _ ih =>
    rcases head with ⟨first, value⟩
    rw [List.lookup_cons, List.lookup_cons, ih (List.nodup_cons.mp distinct).2]
  | swap left right rest =>
    rcases left with ⟨first, value⟩
    rcases right with ⟨second, other⟩
    -- At most one of the two entries in front has the key.
    have apart : second ≠ first := by
      intro same
      simp [same] at distinct
    cases found : key == first with
    | false => simp [List.lookup_cons, found]
    | true =>
      have same : key = first := eq_of_beq found
      have passed : (key == second) = false := beq_false_of_ne (same ▸ apart.symm)
      simp [List.lookup_cons, found, passed]
  | trans front _ ihFront ihBack =>
    exact (ihFront distinct).trans (ihBack ((front.map _).nodup_iff.mp distinct))

/-- The list with each key once, under which the last value stands that the given list has for it.
-/
def lastOfEach (entries : List (κ × ν)) : List (κ × ν) :=
  entries.foldl (fun kept (key, value) => put key value kept) []

end ContentClasses.Association
