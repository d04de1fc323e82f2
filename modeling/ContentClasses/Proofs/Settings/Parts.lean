import ContentClasses.Proofs.Settings.Groups
import ContentClasses.Settings.KeyPath

/-! Parts of settings by the names that lead to them: a part is read on its own, and what is read
next to it does not depend on it. -/

namespace ContentClasses

namespace Setting

variable {front rest : List String} {setting part : Setting}

/-- The part of a setting that names lead to through tables. -/
def at? : List String → Setting → Option Setting
  | [], setting => some setting
  | name :: rest, setting => (setting.asTable.1.lookup name).bind (at? rest)

/-- Whether everything that stands on the way to a part is a table. -/
def Tabular : List String → Setting → Prop
  | [], _ => True
  | name :: rest, setting =>
    (∃ entries origin, setting = .table entries origin) ∧
      ∀ inner, setting.asTable.1.lookup name = some inner → inner.Tabular rest

/-- A setting with another part, where anything but a table on the way to it is replaced. -/
def withAt (setting : Setting) (names : List String) (part : Setting) : Setting :=
  KeyPath.changeAt (fun _ => part) (names.map .key) setting

@[simp] theorem withAt_nil (setting part : Setting) : setting.withAt [] part = part := rfl

theorem withAt_cons (setting : Setting) (name : String) (rest : List String) (part : Setting) :
    setting.withAt (name :: rest) part =
      .table (Association.put name
        (((setting.asTable.1.lookup name).getD .absent).withAt rest part) setting.asTable.1)
        setting.asTable.2 :=
  rfl

/-- A part of a part is found in two goes. -/
theorem at?_append (setting : Setting) (front rest : List String) :
    setting.at? (front ++ rest) = (setting.at? front).bind (at? rest) := by
  -- The names are followed one after the other, and nothing lies behind one that leads nowhere.
  induction front generalizing setting with
  | nil => rfl
  | cons name front ih =>
    simp only [List.cons_append, at?]
    cases setting.asTable.1.lookup name with
    | none => rfl
    | some inner => exact ih inner

/-- A part of a part is replaced by replacing the outer one. -/
theorem withAt_append (setting : Setting) (front rest : List String) (part : Setting) :
    setting.withAt (front ++ rest) part =
      setting.withAt front (((setting.at? front).getD .absent).withAt rest part) := by
  -- The outer part starts as an empty table where there was none, as it does in the inner change.
  induction front generalizing setting with
  | nil => rfl
  | cons name front ih =>
    rw [List.cons_append, withAt_cons, ih, withAt_cons, at?]
    cases setting.asTable.1.lookup name with
    | some inner => rfl
    | none =>
      -- A part of what was never given has not been given either.
      cases front <;> rfl

/-- A part is found only through tables. -/
theorem tabular_of_at? (found : setting.at? front = some part) : setting.Tabular front := by
  induction front generalizing setting with
  | nil => trivial
  | cons name front ih =>
    obtain ⟨inner, there, further⟩ := Option.bind_eq_some_iff.mp found
    refine ⟨?_, fun other same => ?_⟩
    · -- Nothing has an entry under a name but a table.
      cases setting with
      | table entries origin => exact ⟨entries, origin, rfl⟩
      | scalar | list => simp [asTable] at there
    · cases there.symm.trans same
      exact ih further

/-- What stands on the way to a part of a part stands on the way to the outer one or behind it. -/
theorem Tabular.split (tables : setting.Tabular (front ++ rest)) :
    setting.Tabular front ∧ ∀ inner, setting.at? front = some inner → inner.Tabular rest := by
  induction front generalizing setting with
  | nil =>
    refine ⟨trivial, fun inner same => ?_⟩
    cases same
    exact tables
  | cons name front ih =>
    obtain ⟨table, further⟩ := tables
    refine ⟨⟨table, fun inner there => (ih (further inner there)).1⟩, fun inner found => ?_⟩
    -- The first name leads to something in the middle, from where the other names lead on.
    obtain ⟨middle, there, behind⟩ := Option.bind_eq_some_iff.mp found
    exact (ih (further middle there)).2 inner behind

end Setting

namespace Decode

variable {α β γ : Type} {decode : Decode α} {blank : α} {front rest : List String}

/-- Whether the part of a setting under given names is read on its own, as a part of what is read,
and whatever else is read is independent of it. -/
structure ReadsAt (decode : Decode α) (blank : α) (path : List String) (read : Decode β)
    (get : α → β) (put : β → α → α) : Prop where
  get_put : ∀ value group, get (put value group) = value
  gives : ∀ setting group, setting.Tabular path → decode.run setting = .ok group →
    read.Gives (get blank) (setting.at? path) (get group)
  /-- What is required of the others can be met if the setting can be read without the part. -/
  changed : ∀ setting, ∃ others : α → Prop,
    (∀ value group, others (put value group) ↔ others group) ∧
    (∀ part group, decode.run (setting.withAt path part) = .ok group ↔
      read.run part = .ok (get group) ∧ others group) ∧
    (setting = .absent ∨ (∃ group, decode.run setting = .ok group) → ∃ group, others group)

end Decode

/-- A part of a group is read on its own. -/
theorem GroupParts.readsAt {α : Type} {parts : GroupParts α} {part : GroupPart α}
    (member : part ∈ parts.parts) :
    parts.decode.ReadsAt parts.blank [part.key] part.read part.get part.put := by
  refine ⟨part.get_put, fun setting group tables read => ?_, fun setting => ?_⟩
  · obtain ⟨⟨entries, origin, rfl⟩, _⟩ := tables
    have here := run_table_iff.mp read part member
    simpa [Setting.at?, Setting.asTable] using here
  · -- The others are the parts under other keys, with what stands there.
    refine ⟨fun group => ∀ other ∈ parts.parts, other.key ≠ part.key →
      other.read.Gives (other.get parts.blank) (setting.asTable.1.lookup other.key)
        (other.get group), fun value group => ?_, fun given group => ?_, fun readable => ?_⟩
    · -- Putting the part leaves every other one as it is.
      refine forall₃_congr fun other among different => ?_
      have apart := parts.apart.forall member among fun same => different (same ▸ rfl)
      rw [apart.kept]
    · rw [Setting.withAt_cons, Setting.withAt_nil, run_table_iff]
      simp only [Association.lookup_put]
      constructor
      · intro values
        refine ⟨by simpa using values part member, fun other among different => ?_⟩
        simpa [different] using values other among
      · -- A part with the same key is the part itself, and what stands under other keys is kept.
        rintro ⟨here, others⟩ other among
        by_cases same : other.key = part.key
        · cases eq_of_key among member same
          simpa using here
        · simpa [same] using others other among same
    · -- What is no table gives nothing under any key, so the defaults meet what is required.
      cases setting with
      | scalar | list => exact ⟨parts.blank, fun other _ _ => rfl⟩
      | table entries origin =>
        obtain ⟨group, read⟩ := readable.resolve_left (by simp [Setting.absent])
        exact ⟨group, fun other among _ => run_table_iff.mp read other among⟩

/-- The part of a group at some position among its parts is read on its own. -/
theorem GroupParts.nth {α : Type} (parts : GroupParts α) (index : Nat)
    (within : index < parts.parts.length) :
    parts.decode.ReadsAt parts.blank [parts.parts[index].key] parts.parts[index].read
      parts.parts[index].get parts.parts[index].put :=
  readsAt (List.getElem_mem within)

namespace Decode

variable {α β γ : Type} {decode : Decode α} {blank : α} {front rest : List String}

/-- A part of a part is read on its own. -/
theorem ReadsAt.trans {middle : Decode β} {read : Decode γ} {get : α → β} {put : β → α → α}
    {getInner : β → γ} {putInner : γ → β → β}
    (outer : decode.ReadsAt blank front middle get put)
    (inner : middle.ReadsAt (get blank) rest read getInner putInner) :
    decode.ReadsAt blank (front ++ rest) read (fun group => getInner (get group))
      fun value group => put (putInner value (get group)) group := by
  refine ⟨fun value group => ?_, fun setting group tables found => ?_, fun setting => ?_⟩
  · rw [outer.get_put, inner.get_put]
  · obtain ⟨above, below⟩ := tables.split
    have between := outer.gives setting group above found
    -- Without the outer part, its default has the default of the inner one.
    rw [Setting.at?_append]
    cases there : setting.at? front with
    | none =>
      rw [there] at between
      exact congrArg getInner between
    | some part =>
      rw [there] at between
      exact inner.gives part _ (below part there) between
  · obtain ⟨others, kept, settled, met⟩ := outer.changed setting
    obtain ⟨beside, stays, resettled, possible⟩ :=
      inner.changed ((setting.at? front).getD .absent)
    -- What is independent of the part is so in the outer part, or beside that.
    refine ⟨fun group => beside (get group) ∧ others group, fun value group => ?_,
      fun part group => ?_, fun readable => ?_⟩
    · simp only [outer.get_put, stays, kept]
    · rw [Setting.withAt_append, settled, resettled, and_assoc]
    · obtain ⟨group, free⟩ := met readable
      have within : (setting.at? front).getD .absent = .absent ∨
          ∃ group, middle.run ((setting.at? front).getD .absent) = .ok group := by
        cases there : setting.at? front with
        | none => exact .inl rfl
        | some part =>
          rcases readable with rfl | ⟨whole, found⟩
          · -- There is no part of what was never given but itself.
            cases front with
            | nil => exact .inl (Option.some.inj there).symm
            | cons name front => cases there
          · have between := outer.gives setting whole (Setting.tabular_of_at? there) found
            rw [there] at between
            exact .inr ⟨_, between⟩
      obtain ⟨part, clear⟩ := possible within
      refine ⟨put part group, ?_, (kept part group).mpr free⟩
      rwa [outer.get_put]

end Decode

end ContentClasses
