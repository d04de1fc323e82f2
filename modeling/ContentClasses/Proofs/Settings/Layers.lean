import ContentClasses.Proofs.Toml.Tables
import ContentClasses.Settings.KeyPath

/-! The entries of a TOML document as a layer of settings: over nothing, they are all there is, and
over themselves, they change nothing but their origins. -/

namespace ContentClasses

mutual

/-- The setting that a TOML value is among layers, where tables have no origin. -/
def Setting.layer (origin : String) : Toml.Value → Setting
  | .table entries => .table (layerEntries origin entries) none
  | value => .ofToml origin value

/-- The settings that the entries of a TOML table are among layers. -/
def layerEntries (origin : String) : List (String × Toml.Value) → List (String × Setting)
  | [] => []
  | (key, value) :: rest => (key, .layer origin value) :: layerEntries origin rest

end

mutual

/-- Whether all keys in a value are in lower case and differ from those beside them. -/
def Toml.Value.keyed : Toml.Value → Bool
  | .table entries => keyedEntries entries
  | _ => true

/-- Whether all keys in the entries of a table are in lower case and differ from those beside them.
-/
def keyedEntries : List (String × Toml.Value) → Bool
  | [] => true
  | (key, value) :: rest =>
    lowerKey key = key && !(rest.map (·.1)).contains key && value.keyed && keyedEntries rest

end

/-- Settings replace those that stand behind others under the same key. -/
theorem put_layers {key : String} {done : List (String × Setting)} (fresh : done.lookup key = none)
    (setting : Setting) (earlier : Option Setting) (rest : List (String × Setting)) :
    Association.put key setting
        (done ++ earlier.elim [] fun there => (key, there) :: rest) =
      done ++ (key, setting) :: earlier.elim [] fun _ => rest := by
  rw [Association.put_append fresh]
  cases earlier <;> simp [Association.put]

/-- What stands behind other settings is found there. -/
theorem lookup_layers {key : String} {done : List (String × Setting)}
    (fresh : done.lookup key = none) (earlier : Option Setting) (rest : List (String × Setting)) :
    (done ++ earlier.elim [] fun there => (key, there) :: rest).lookup key = earlier := by
  rw [List.lookup_append, fresh, Option.none_or]
  cases earlier <;> simp

mutual

/-- A value takes the place of nothing, or of itself from another origin. -/
theorem onto_layer (origin : String) {key : String} (lower : lowerKey key = key)
    {done : List (String × Setting)} (fresh : done.lookup key = none) (earlier : Option String)
    (rest : List (String × Setting)) :
    (value : Toml.Value) → value.keyed = true →
      (Setting.ofToml origin value).onto key
          (done ++ (earlier.map (Setting.layer · value)).elim []
            fun there => (key, there) :: rest) =
        done ++ (key, .layer origin value) :: earlier.elim [] fun _ => rest
  | .string _, _ | .integer _, _ | .float _, _ | .boolean _, _ | .dateTime _, _ | .array _, _ => by
    -- What is no table replaces all that was there.
    simp only [Setting.ofToml, Setting.onto, Setting.layer, lower, put_layers fresh]
    cases earlier <;> rfl
  | .table [], _ => by
    simp only [Setting.ofToml, Setting.ofTomlEntries, Setting.onto, Setting.layer, layerEntries,
      lower, put_layers fresh, lookup_layers fresh]
    cases earlier <;> rfl
  | .table ((inner, value) :: others), keyed => by
    -- The entries of a table go over those that the same table has had before.
    have within := settingsOnto_layer origin earlier ((inner, value) :: others) keyed []
      (fun _ _ => rfl)
    simp only [Setting.ofToml, Setting.ofTomlEntries, Setting.onto, lower, put_layers fresh,
      lookup_layers fresh]
    cases earlier <;> simpa [Setting.layer, Setting.asTable, Setting.ofTomlEntries] using within

/-- Entries take the place of nothing, or of themselves from another origin. -/
theorem settingsOnto_layer (origin : String) (earlier : Option String) :
    (entries : List (String × Toml.Value)) → keyedEntries entries = true →
      (done : List (String × Setting)) → (∀ key ∈ entries.map (·.1), done.lookup key = none) →
      settingsOnto (Setting.ofTomlEntries origin entries)
          (done ++ earlier.elim [] (layerEntries · entries)) =
        done ++ layerEntries origin entries
  | [], _, done, _ => by
    cases earlier <;> simp [Setting.ofTomlEntries, settingsOnto, layerEntries]
  | (key, value) :: rest, keyed, done, apart => by
    simp only [keyedEntries, Bool.and_eq_true, decide_eq_true_eq, Bool.not_eq_true',
      List.contains_eq_mem, decide_eq_false_iff_not] at keyed
    obtain ⟨⟨⟨lower, new⟩, within⟩, others⟩ := keyed
    -- The first entry finds its earlier self right behind what is done, and the others follow.
    have first := onto_layer origin lower (apart key (.head _)) earlier
      (earlier.elim [] (layerEntries · rest)) value within
    have later := settingsOnto_layer origin earlier rest others
      (done ++ [(key, .layer origin value)]) (fun other among => by
        have different : (other == key) = false :=
          beq_false_of_ne fun same => new (same ▸ among)
        simp [List.lookup_append, apart other (.tail _ among), List.lookup_cons, different])
    cases earlier <;>
      simp only [Option.map_none, Option.map_some, Option.elim_none, Option.elim_some,
        List.append_nil] at first later ⊢ <;>
      simpa [Setting.ofTomlEntries, settingsOnto, layerEntries, first] using later

end

/-- Settings under plain names are put there one after the other. -/
theorem layered_eq_settingsOnto {source : List (String × Setting)}
    (plain : ∀ key ∈ source.map (·.1), KeyPath.ofKey key = ⟨key, []⟩)
    (entries : List (String × Setting)) : layered source entries = settingsOnto source entries := by
  -- A plain name is a path of one step.
  induction source generalizing entries with
  | nil => rfl
  | cons head source ih =>
    rcases head with ⟨key, setting⟩
    have step : (KeyPath.ofKey key).set setting entries = setting.onto key entries := by
      rw [plain key (.head _)]
      rfl
    have others := ih (fun key among => plain key (.tail _ among)) (setting.onto key entries)
    simpa [layered, settingsOnto, step] using others

/-- The settings of a document have the keys of its entries. -/
theorem map_fst_ofTomlEntries (origin : String) (entries : List (String × Toml.Value)) :
    (Setting.ofTomlEntries origin entries).map (·.1) = entries.map (·.1) := by
  induction entries with
  | nil => rfl
  | cons head entries ih => simp [Setting.ofTomlEntries, ih]

/-- A document over nothing, or over itself from another origin, is all that there is. -/
theorem layered_document {entries : List (String × Toml.Value)}
    (keyed : keyedEntries entries = true)
    (plain : ∀ key ∈ entries.map (·.1), KeyPath.ofKey key = ⟨key, []⟩) (origin : String)
    (earlier : Option String) :
    layered (Setting.ofTomlEntries origin entries) (earlier.elim [] (layerEntries · entries)) =
      layerEntries origin entries := by
  rw [layered_eq_settingsOnto (by rwa [map_fst_ofTomlEntries])]
  exact settingsOnto_layer origin earlier entries keyed [] fun _ _ => rfl

end ContentClasses
