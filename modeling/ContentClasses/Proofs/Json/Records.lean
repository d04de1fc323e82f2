import ContentClasses.Proofs.Json.Containers
import Mathlib.Data.List.Forall2

/-! What is made of records, which are written as objects or as lists of their fields. -/

namespace ContentClasses.Json

open Scan

/-- A field of a record, with the change that the form of its value makes. -/
structure FormField (α : Type) where
  key : String
  presence : Presence
  change : Form → Option (α → α)

/-- A field whose value is put into the record by a given function. -/
def FormField.of {α β : Type} (key : String) (presence : Presence) (decode : Form → Option β)
    (put : β → α → α) : FormField α where
  key := key
  presence := presence
  change form := (decode form).map put

namespace Form

variable {α : Type}

/-- What one member of a record changes: a known field once, and any other member nothing. -/
def recordMember (fields : List (FormField α)) (key : String) (state : α × List String)
    (form : Form) : Option (α × List String) :=
  match fields.find? (·.key = key) with
  | none => some state
  | some field =>
    if state.2.contains key then none
    else (field.change form).map fun change => (change state.1, state.2 ++ [key])

/-- The record, unless a required field was not given. -/
def recordEnd (fields : List (FormField α)) (state : α × List String) : Option α :=
  match fields.find? fun field => field.presence = .required && !state.2.contains field.key with
  | some _ => none
  | none => some state.1

/-- What a list of values makes of a record whose fields they are. -/
def recordItems : List (FormField α) → List Form → α → Option α
  | [], [], value => some value
  | [], _ :: _, _ => none
  | field :: fields, item :: items, value => do
    recordItems fields items ((← field.change item) value)
  | field :: fields, [], value =>
    if field.presence = .optional then recordItems fields [] value else none

/-- The changes that the known members of an object make, each with its key, unless a key is no text
or a known member does not say what its field wants. -/
def changes (fields : List (FormField α)) :
    List (Option String × Form) → Option (List (String × (α → α)))
  | [] => some []
  | (key, form) :: members => do
    let key ← key
    match fields.find? (·.key = key) with
    | none => changes fields members
    | some field => do
      let change ← field.change form
      return (key, change) :: (← changes fields members)

/-- The record that an object or a list stands for. -/
def record (fields : List (FormField α)) (blank : α) : Form → Option α
  | .list items => recordItems fields items blank
  | form => objectOf (recordMember fields) (blank, []) (recordEnd fields) form

end Form

/-- Whether a field is read as a function on forms says. -/
structure RecordField.Reads {α : Type} (field : RecordField α) (form : FormField α) : Prop where
  key : field.key = form.key
  presence : field.presence = form.presence
  change : Json.Reads field.change form.change

section

variable {α β : Type} {fields : List (RecordField α)} {forms : List (FormField α)}

/-- A field is read as its value is. -/
theorem Reads.field {scan : Scan β} {decode : Form → Option β} (reads : Reads scan decode)
    (key : String) (presence : Presence) (put : β → α → α) :
    (RecordField.of key presence scan put).Reads (.of key presence decode put) where
  key := rfl
  presence := rfl
  change := by
    intro form word written gap rest blank ends
    simp only [RecordField.of, FormField.of, run?_bind, reads written blank ends]
    cases decode form <;> rfl

/-- The same fields are found on both sides, if only keys and presences matter. -/
theorem find?_reads (reads : List.Forall₂ RecordField.Reads fields forms)
    (among : RecordField α → Bool) (amongForms : FormField α → Bool)
    (same : ∀ field form, field.Reads form → among field = amongForms form) :
    (fields.find? among = none ∧ forms.find? amongForms = none) ∨
      ∃ field form, fields.find? among = some field ∧ forms.find? amongForms = some form ∧
        field.Reads form := by
  -- Both sides decide alike on each pair, so that they stop at the same one.
  induction reads with
  | nil => exact .inl ⟨rfl, rfl⟩
  | @cons field form _ _ head _ ih =>
    have alike := same field form head
    cases found : amongForms form with
    | true => exact .inr ⟨field, form, by simp [alike, found], by simp [found], head⟩
    | false => simpa [List.find?_cons, alike, found] using ih

/-- A member of a record is read as the field that it gives, and passed over if it is none. -/
theorem readsMember_recordMember (reads : List.Forall₂ RecordField.Reads fields forms) :
    ReadsMember (Scan.recordMember fields) (Form.recordMember forms) := by
  intro key state form word before after rest written blankBefore blankAfter ends
  have known := find?_reads reads (·.key = key) (·.key = key) fun field form same => by
    rw [same.key]
  -- A member that is no field is passed over without a look at its value.
  rcases known with ⟨missing, absent⟩ | ⟨field, counterpart, found, given, same⟩
  · simp [Scan.recordMember, missing, Form.recordMember, absent,
      written.run?_skipMember blankBefore blankAfter ends]
  · simp only [Scan.recordMember, found, Form.recordMember, given, run?_ite, run?_fail, run?_bind,
      run?_colon blankBefore, Option.bind_some, same.change written blankAfter ends]
    -- A field is given once at most.
    by_cases twice : state.2.contains key = true
    · rw [if_pos twice, if_pos twice, Option.map_none]
    · rw [if_neg twice, if_neg twice]
      cases counterpart.change form <;> rfl

/-- A record ends well if no required field is missing. -/
theorem run?_recordEnd (reads : List.Forall₂ RecordField.Reads fields forms)
    (state : α × List String) (text : List Char) :
    (Scan.recordEnd fields state).run? text = (Form.recordEnd forms state).map (·, text) := by
  -- The reader and the form look for the same missing field.
  have missing := find?_reads reads
    (fun field => field.presence = .required && !state.2.contains field.key)
    (fun field => field.presence = .required && !state.2.contains field.key)
    fun field form same => by rw [same.key, same.presence]
  rcases missing with ⟨none, absent⟩ | ⟨field, counterpart, found, given, _⟩
  · rw [Scan.recordEnd, Form.recordEnd, none, absent]
    rfl
  · rw [Scan.recordEnd, Form.recordEnd, found, given]
    rfl

/-- No list ends where another item stands. -/
theorem ItemsFrom.run?_finishList {first : Bool} {items : List Form} {text : List Char}
    (written : ItemsFrom first items text) (rest : List Char) :
    finishList.run? (text ++ ']' :: rest) = if items = [] then some ((), rest) else none := by
  have close : isBlank ']' = false := by decide
  have comma : isBlank ',' = false := by decide
  -- Behind the blanks the bracket stands only if no item is left.
  cases written with
  | empty blank => simp [finishList, blank.dropWhile_append, close]
  | @first gap word tail _ _ blank head _ =>
    have passed := head.dropWhile_append blank (tail ++ ']' :: rest)
    obtain ⟨first, letters, rfl, start⟩ := head.exists_cons
    simp only [List.append_assoc, List.cons_append] at passed ⊢
    simp [finishList, passed, start.apart]
  | more written =>
    cases written with
    | done blank => simp [finishList, blank.dropWhile_append, close]
    | @next before after word tail _ _ blankBefore blankAfter head _ =>
      simp only [List.append_assoc, List.cons_append, finishList, run?_bind, run?_skipBlank,
        blankBefore.dropWhile_append, Option.bind_some, run?_peek]
      simp only [List.dropWhile_cons, comma]
      simp only [Bool.false_eq_true, if_false, List.head?_cons, run?_bind, run?_advance,
        -- An item behind a comma is not the end of the list.
        Option.bind_some, run?_skipBlank, run?_peek]
      split <;> simp

/-- The fields of a record are read from the items of a list in their order, up to its end. -/
theorem run?_recordItems (reads : List.Forall₂ RecordField.Reads fields forms) (expected : String)
    {index : Nat} {items : List Form} {text : List Char}
    (written : ItemsFrom (decide (index = 0)) items text) (value : α) (rest : List Char) :
    ((Scan.recordItems expected index fields value).run? (text ++ ']' :: rest)).bind (fun outcome =>
        (finishList.run? outcome.2).map fun closed => (outcome.1, closed.2)) =
      (Form.recordItems forms items value).map (·, rest) := by
  -- The items go along with the fields, and either may end first.
  induction reads generalizing index items text value with
  | nil =>
    simp only [Scan.recordItems, run?_pure, Option.bind_some, written.run?_finishList]
    cases items <;> simp [Form.recordItems]
  | @cons field form fields forms head _ ih =>
    cases items with
    | nil =>
      simp only [Scan.recordItems, run?_bind, written.run?_nextItem_nil, Option.bind_some,
        Bool.false_eq_true, if_false, Form.recordItems, run?_ite, run?_fail, head.presence]
      -- After the last item the list counts as read but for its end.
      by_cases omitted : form.presence = .optional
      · have others := @ih (index + 1) [] [] (.more (.done blank_nil)) value
        simpa [omitted] using others
      · simp [omitted]
    | cons item items =>
      -- The next item belongs to the next field.
      obtain ⟨word, tail, first, others, _, ends, next⟩ := written.run?_nextItem_cons rest
      have read := head.change first blank_nil ends
      rw [List.nil_append] at read
      simp only [Scan.recordItems, run?_bind, next, Option.bind_some, if_true, read,
        Form.recordItems]
      cases form.change item with
      | none => rfl
      | some change => exact @ih (index + 1) items tail others (change value)

/-- A record is read as its fields are, in either of its forms. -/
theorem Reads.record (reads : List.Forall₂ RecordField.Reads fields forms) (name : String)
    (blank : α) : Reads (Scan.record name fields blank) (Form.record forms blank) := by
  intro form word written gap rest blankGap ends
  -- The members of an object are read by the rule for members, whatever their order.
  have asObject := (readsMember_recordMember reads).object (run?_recordEnd reads)
    ("struct " ++ name) (blank, []) written blank_nil ends
  rw [List.nil_append] at asObject
  obtain ⟨first, others, rfl, start, seen⟩ := written.run?_valueStart blankGap rest
  simp only [Scan.record, run?_bind, seen, Option.bind_some]
  have shown := start.shows
  cases form with
  | list items =>
    obtain ⟨text, same, inside⟩ := written.exists_items
    cases same
    have begins : ItemsFrom (decide (0 = 0)) items text := inside
    have read := run?_recordItems reads
      -- The items of a list are read in the order of the fields.
      ("struct " ++ name ++ " with " ++ toString fields.length ++ " elements") begins blank rest
    simpa [Form.record] using read
  | _ => simp_all [Form.record]

end

section

variable {α : Type} {fields : List (FormField α)}

/-- A known member makes its change before the later ones. -/
theorem Form.changes_cons_known {key : String} {form : Form} {field : FormField α}
    {change : α → α} (found : fields.find? (·.key = key) = some field)
    (made : field.change form = some change) (members : List (Option String × Form)) :
    changes fields ((some key, form) :: members) =
      (changes fields members).map ((key, change) :: ·) := by
  simp only [changes, found, made, Option.bind_eq_bind, Option.bind_some]
  cases changes fields members <;> rfl

/-- An unknown member makes no change. -/
theorem Form.changes_cons_unknown {key : String} (missing : fields.find? (·.key = key) = none)
    (form : Form) (members : List (Option String × Form)) :
    changes fields ((some key, form) :: members) = changes fields members := by
  simp only [changes, missing, Option.bind_eq_bind, Option.bind_some]

/-- The members of a record are taken one after the other if no known one comes twice. -/
theorem Form.foldlM_recordMember (members : List (Option String × Form)) {given : List String}
    (once : given.Nodup) (value : α) :
    members.foldlM (memberOf (recordMember fields)) (value, given) =
      (changes fields members).bind fun made =>
        if (given ++ made.map Prod.fst).Nodup then
          some (made.foldl (fun value change => change.2 value) value, given ++ made.map Prod.fst)
        else none := by
  -- The keys given so far stay distinct, or the fold has failed before.
  induction members generalizing given value with
  | nil => simp [changes, once]
  | cons member members ih =>
    -- A key that is no text fails both.
    obtain ⟨key | key, form⟩ := member
    · rfl
    simp only [List.foldlM_cons, memberOf, recordMember, changes, Option.bind_eq_bind,
      Option.bind_some]
    cases fields.find? (·.key = key) with
    | none => exact ih once value
    | some field =>
      simp only
      generalize field.change form = outcome
      by_cases again : key ∈ given
      · -- However the rest goes on, the key is there twice.
        have twice (later : List String) : ¬(given ++ key :: later).Nodup := fun nodup =>
          (List.nodup_append.mp nodup).2.2 key again key (.head _) rfl
        cases outcome <;> cases changes fields members <;> simp [again, twice]
      · -- A new key is added to those given.
        cases outcome with
        | none => simp [again]
        | some change =>
          have longer : (given ++ [key]).Nodup :=
            List.nodup_append.mpr ⟨once, by simp, fun other among last behind same =>
              again (same.trans (List.mem_singleton.mp behind) ▸ among)⟩
          have others := ih longer (change value)
          cases made : changes fields members <;> simp_all

/-- A record ends well if each required field was given. -/
theorem Form.recordEnd_eq (value : α) (given : List String) :
    recordEnd fields (value, given) =
      if ∀ field ∈ fields, field.presence = .required → field.key ∈ given then some value
      else none := by
  -- The field that is looked for is one that breaks the condition.
  have missing : (fields.find? fun field =>
      field.presence = .required && !given.contains field.key) = none ↔
        ∀ field ∈ fields, field.presence = .required → field.key ∈ given := by
    simp [List.find?_eq_none]
  unfold recordEnd
  split
  · rename_i field found
    rw [if_neg fun complete => nomatch found.symm.trans (missing.mpr complete)]
  · rename_i none
    rw [if_pos (missing.mp none)]

/-- An object stands for a record if each known member is well-formed and comes once, and no
required field is missing; its members then change the record in their order. -/
theorem Form.record_object (members : List (Option String × Form)) (blank : α) :
    record fields blank (.object members) = (changes fields members).bind fun made =>
      if (made.map Prod.fst).Nodup ∧
          ∀ field ∈ fields, field.presence = .required → field.key ∈ made.map Prod.fst then
        some (made.foldl (fun value change => change.2 value) blank)
      else none := by
  -- At the start no key is given.
  have built := @foldlM_recordMember _ fields members [] List.nodup_nil blank
  simp only [record, objectOf, built, Option.bind_eq_bind, List.nil_append]
  cases changes fields members with
  | none => rfl
  -- The members must be changes, come once each, and be complete.
  | some made =>
    by_cases once : (made.map Prod.fst).Nodup <;> simp only [once, Option.bind_some, if_true,
      if_false, true_and, false_and, Option.bind_none, recordEnd_eq]

/-- Each known member of an object makes a change if all of them do. -/
theorem Form.exists_change {members : List (Option String × Form)} {made : List (String × (α → α))}
    (changed : changes fields members = some made) {key : String} {form : Form}
    (among : (some key, form) ∈ members) {field : FormField α}
    (known : fields.find? (·.key = key) = some field) :
    ∃ change, field.change form = some change := by
  -- The members are gone through to the end only if each known one makes its change.
  induction members generalizing made with
  | nil => nomatch among
  | cons member members ih =>
    obtain ⟨name, value⟩ := member
    -- The first member has been taken before the rest.
    simp only [changes, Option.bind_eq_bind, Option.bind_eq_some_iff] at changed
    obtain ⟨_, rfl, rest⟩ := changed
    rcases List.mem_cons.mp among with same | later
    · cases same
      rw [known] at rest
      obtain ⟨change, read, _⟩ := Option.bind_eq_some_iff.mp rest
      exact ⟨change, read⟩
    · -- An unknown member changes nothing, and a known one comes before the rest.
      split at rest
      · exact ih rest later
      · obtain ⟨_, _, others⟩ := Option.bind_eq_some_iff.mp rest
        obtain ⟨_, earlier, _⟩ := Option.bind_eq_some_iff.mp others
        exact ih earlier later

/-- A known member of an object that stands for a record is as its field wants. -/
theorem Form.exists_change_of_record {members : List (Option String × Form)} {blank value : α}
    (stands : record fields blank (.object members) = some value) {key : String} {form : Form}
    (among : (some key, form) ∈ members) {field : FormField α}
    (known : fields.find? (·.key = key) = some field) :
    ∃ change, field.change form = some change := by
  rw [record_object, Option.bind_eq_some_iff] at stands
  obtain ⟨_, changed, _⟩ := stands
  exact exists_change changed among known

section

variable {kept : α → Prop} (keeps : ∀ field ∈ fields, ∀ form change,
  field.change form = some change → ∀ value, kept value → kept (change value))

include keeps

/-- The changes that members make keep what the fields keep. -/
theorem Form.kept_of_changes {members : List (Option String × Form)}
    {made : List (String × (α → α))} (changed : changes fields members = some made) {value : α}
    (start : kept value) : kept (made.foldl (fun value change => change.2 value) value) := by
  -- What is kept goes through each change in the order of the members.
  induction members generalizing made value with
  | nil =>
    cases changed
    exact start
  | cons member members ih =>
    obtain ⟨name, content⟩ := member
    simp only [changes, Option.bind_eq_bind, Option.bind_eq_some_iff] at changed
    obtain ⟨_, _, rest⟩ := changed
    split at rest
    · exact ih rest start
    · rename_i field known
      obtain ⟨change, read, others⟩ := Option.bind_eq_some_iff.mp rest
      obtain ⟨later, earlier, same⟩ := Option.bind_eq_some_iff.mp others
      cases same
      exact ih earlier (keeps field (List.mem_of_find?_eq_some known) _ _ read value start)

/-- The items of a list keep what the fields keep. -/
theorem Form.kept_of_recordItems {items : List Form} {value last : α} (start : kept value)
    (stands : recordItems fields items value = some last) : kept last := by
  -- Fields without an item are passed over, and change nothing.
  induction fields generalizing items value with
  | nil =>
    -- Without members the value is as it was.
    cases items with
    | nil =>
      cases stands
      exact start
    | cons _ _ => nomatch stands
  | cons field fields ih =>
    have others := fun field among => keeps field (.tail _ among)
    -- A field without item keeps the value, or fails if it is required.
    cases items with
    | nil =>
      rw [recordItems] at stands
      split at stands
      · exact ih others start stands
      · nomatch stands
    | cons item items =>
      obtain ⟨change, read, rest⟩ := Option.bind_eq_some_iff.mp stands
      -- A field with item changes the value, which keeps what it kept.
      exact ih others (keeps field (.head _) item change read value start) rest

/-- A record that a form stands for has what the fields keep of the blank one. -/
theorem Form.kept_of_record {form : Form} {blank value : α} (start : kept blank)
    (stands : record fields blank form = some value) : kept value := by
  -- Either way the value has gone through the changes of its fields.
  cases form with
  | list items => exact kept_of_recordItems keeps start stands
  | object members =>
    rw [record_object, Option.bind_eq_some_iff] at stands
    obtain ⟨made, changed, complete⟩ := stands
    split at complete
    · cases complete
      exact kept_of_changes keeps changed start
    · nomatch complete
  | _ => nomatch stands

end

end

end ContentClasses.Json
