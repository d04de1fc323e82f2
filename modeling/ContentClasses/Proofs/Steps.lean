/-! Steps that can fail: how they are carried out, and what the success of several of them tells
about each. -/

namespace ContentClasses

variable {ε ε' α β : Type}

/-- After a step that succeeds the next one goes on with its result. -/
@[simp] theorem ok_bind (value : α) (next : α → Except ε β) :
    ((.ok value : Except ε α) >>= next) = next value := rfl

/-- After a step that fails nothing else is done. -/
@[simp] theorem error_bind (cause : ε) (next : α → Except ε β) :
    ((.error cause : Except ε α) >>= next) = .error cause := rfl

/-- A result that is handed on is a success. -/
@[simp] theorem pure_eq_ok (value : α) : (pure value : Except ε α) = .ok value := rfl

/-- A cause that is thrown is a failure. -/
@[simp] theorem throw_eq_error (cause : ε) : (throw cause : Except ε α) = .error cause := rfl

/-- Renaming causes leaves a success as it is. -/
@[simp] theorem mapError_ok (rename : ε → ε') (value : α) :
    (Except.ok value).mapError rename = .ok value := rfl

/-- Renaming causes renames that of a failure. -/
@[simp] theorem mapError_error (rename : ε → ε') (cause : ε) :
    (Except.error cause : Except ε α).mapError rename = .error (rename cause) := rfl

/-- Changing results changes that of a success. -/
@[simp] theorem map_ok (change : α → β) (value : α) :
    (Except.ok value : Except ε α).map change = .ok (change value) := rfl

/-- Changing results leaves a failure as it is. -/
@[simp] theorem map_error (change : α → β) (cause : ε) :
    (Except.error cause : Except ε α).map change = .error cause := rfl

/-- Two steps succeed exactly if the first one does, and the second one with what the first
gives. -/
theorem bind_eq_ok_iff {first : Except ε α} {second : α → Except ε β} {result : β} :
    (first >>= second) = .ok result ↔ ∃ value, first = .ok value ∧ second value = .ok result := by
  -- The first step alone decides whether the second one is taken.
  cases first with
  | error cause => exact ⟨nofun, nofun⟩
  | ok value => exact ⟨fun same => ⟨value, rfl, same⟩, fun ⟨_, rfl, same⟩ => same⟩

end ContentClasses
