import ContentClasses.Proofs.Json.Readers

/-! What holds of all that the typed readers yield, on any text. -/

namespace ContentClasses.Json

open Scan

/-- Whether all that a step yields has a property. -/
def Yields {α : Type} (scan : Scan α) (good : α → Prop) : Prop :=
  ∀ ⦃text : List Char⦄ ⦃value : α⦄ ⦃rest : List Char⦄,
    scan.run? text = some (value, rest) → good value

section

variable {α β σ : Type} {scan : Scan α} {good : α → Prop}

/-- A step that yields a value without reading yields that one. -/
theorem Yields.pure {value : α} (holds : good value) : Yields (pure value : Scan α) good := by
  intro text other rest yielded
  cases yielded
  exact holds

/-- A step that cannot succeed yields what one likes. -/
theorem Yields.of_fails (fails : ∀ text, scan.run? text = none) : Yields scan good := by
  intro text value rest yielded
  rw [fails] at yielded
  nomatch yielded

/-- What one step yields after another depends on what that one yields. -/
theorem Yields.bind {first : Scan β} {before : β → Prop} {next : β → Scan α}
    (yields : Yields first before) (after : ∀ value, before value → Yields (next value) good) :
    Yields (first >>= next) good := by
  intro text value rest yielded
  -- If the first step yields nothing, neither do both.
  rw [run?_bind] at yielded
  cases outcome : first.run? text with
  | none =>
    rw [outcome] at yielded
    nomatch yielded
  | some found =>
    rw [outcome, Option.bind_some] at yielded
    exact after found.1 (yields outcome) yielded

/-- What one step yields after another does not depend on some others. -/
theorem Yields.after {first : Scan β} {next : β → Scan α}
    (yields : ∀ value, Yields (next value) good) : Yields (first >>= next) good :=
  have anything : Yields first fun _ => True := fun _ _ _ _ => trivial
  .bind anything fun value _ => yields value

/-- What is inside a container is yielded for the container. -/
theorem Yields.enclosed {finish : Scan Unit} (yields : Yields scan good) :
    Yields (Scan.enclosed finish scan) good := by
  intro text value rest yielded
  -- The closing character is read behind the value and does not change it.
  rw [run?_enclosed] at yielded
  obtain ⟨found, inside, closed⟩ := Option.bind_eq_some_iff.mp yielded
  obtain ⟨_, _, same⟩ := Option.map_eq_some_iff.mp closed
  cases same
  exact yields inside

/-- No value of a wrong type is yielded. -/
theorem yields_wrongType (expected : String) : Yields (wrongType expected) good :=
  .of_fails fun _ => run?_wrongType expected

/-- The items of a list are yielded one by one. -/
theorem Yields.itemsWithin (yields : Yields scan good) (budget : Nat) (first : Bool) :
    Yields (itemsWithin scan budget first) fun items => ∀ item ∈ items, good item := by
  -- A budget that has run out yields no more items, of which nothing is wanted.
  induction budget generalizing first with
  | zero => exact .pure (by simp)
  | succ budget ih =>
    refine .after fun more => ?_
    cases more with
    | false => exact .pure (by simp)
    | true =>
      refine .bind yields fun item holds => .bind (ih false) fun items others => .pure ?_
      simpa [holds] using others

/-- A list is yielded if its items are. -/
theorem Yields.list (yields : Yields scan good) (expected : String) :
    Yields (Scan.list scan expected) fun items => ∀ item ∈ items, good item := by
  -- The first character shows whether there is a list at all.
  refine .after fun first => ?_
  split
  · exact .enclosed (.after fun _ => .after fun _ => yields.itemsWithin _ _)
  · exact yields_wrongType expected

/-- What each member keeps is kept by all members of an object. -/
theorem yields_membersWithin {member : String → σ → Scan σ} {kept : σ → Prop}
    (each : ∀ key state, kept state → Yields (member key state) kept) (budget : Nat)
    (first : Bool) {state : σ} (start : kept state) :
    Yields (membersWithin member budget first state) kept := by
  -- What is kept is the invariant of the rounds.
  induction budget generalizing first state with
  | zero => exact .pure start
  | succ budget ih =>
    refine .after fun key => ?_
    cases key with
    | none => exact .pure start
    | some key => exact .bind (each key state start) fun next keeps => ih false keeps

/-- What is finished of an object has what its members have kept. -/
theorem yields_object (kept : σ → Prop) {member : String → σ → Scan σ} {start : σ}
    {finish : σ → Scan α} (each : ∀ key state, kept state → Yields (member key state) kept)
    (begins : kept start) (ends : ∀ state, kept state → Yields (finish state) good)
    (expected : String) : Yields (Scan.object expected member start finish) good := by
  -- The first character shows whether there is an object at all.
  refine .after fun first => ?_
  split
  · exact .enclosed (.after fun _ =>
      .bind (.after fun _ => yields_membersWithin each _ true begins) ends)
  · exact yields_wrongType expected

end

section

variable {α β : Type} {fields : List (RecordField α)} {kept : α → Prop}

/-- A field keeps what putting its value keeps. -/
theorem RecordField.yields_of {scan : Scan β} {good : β → Prop} {put : β → α → α}
    (yields : Yields scan good)
    (keeps : ∀ made, good made → ∀ value, kept value → kept (put made value))
    (key : String) (presence : Presence) :
    Yields (RecordField.of key presence scan put).change
      fun change => ∀ value, kept value → kept (change value) :=
  .bind yields fun made holds => .pure (keeps made holds)

/-- A field whose value does not matter keeps what putting any value keeps. -/
theorem RecordField.yields_of_any {scan : Scan β} {put : β → α → α}
    (keeps : ∀ made value, kept value → kept (put made value)) (key : String)
    (presence : Presence) :
    Yields (RecordField.of key presence scan put).change
      fun change => ∀ value, kept value → kept (change value) :=
  .after fun made => .pure (keeps made)

/-- The items of a list keep what the fields of the record keep. -/
theorem yields_recordItems
    (each : ∀ field ∈ fields,
      Yields field.change fun change => ∀ value, kept value → kept (change value))
    (expected : String) (index : Nat) {value : α} (start : kept value) :
    Yields (recordItems expected index fields value) kept := by
  -- Each item is for the next field, and changes what the fields before it have made.
  induction fields generalizing index value with
  | nil => exact .pure start
  | cons field fields ih =>
    have others := fun field among => each field (.tail _ among)
    refine .after fun more => ?_
    split
    · exact .bind (each field (.head _))
        fun change keeps => ih others (index + 1) (keeps value start)
    · split
      · -- Behind the last item only a field that may be missing is passed over.
        exact ih others (index + 1) start
      · exact .of_fails fun _ => rfl

/-- A record has what its fields keep of the blank one. -/
theorem yields_record
    (each : ∀ field ∈ fields,
      Yields field.change fun change => ∀ value, kept value → kept (change value))
    (name : String) {blank : α} (start : kept blank) : Yields (record name fields blank) kept := by
  refine .after fun first => ?_
  -- A list gives the fields in their order, and an object under their keys.
  split
  · exact .enclosed (.after fun _ => yields_recordItems each _ 0 start)
  · refine yields_object (fun state => kept state.1) (fun key state keeps => ?_) start
      (fun state keeps => ?_) _
    · unfold recordMember
      split
      · exact .after fun _ => .pure keeps
      · rename_i field found
        split
        · exact .of_fails fun _ => rfl
        · exact .after fun _ => .bind (each field (List.mem_of_find?_eq_some found))
            fun change holds => .pure (holds state.1 keeps)
    · -- At the end nothing is changed any more.
      unfold recordEnd
      split
      · exact .of_fails fun _ => rfl
      · exact .pure keeps

/-- What is accepted as a whole text has been yielded. -/
theorem Yields.readDocument {scan : Scan α} {good : α → Prop} (yields : Yields scan good)
    {text : String} {value : α} (accepted : readDocument scan text = .ok value) : good value := by
  obtain ⟨rest, yielded, _⟩ := readDocument_ok_iff.mp accepted
  exact yields yielded

end

end ContentClasses.Json
