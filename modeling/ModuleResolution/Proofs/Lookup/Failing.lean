import ModuleResolution.Lookup.Basic

/-! # Lookups that may fail

A lookup that may fail goes on only while it has not failed, so its outcome at a place is that of a
computation which fails or gives a value (`outcome_run_bind`).
-/

set_option autoImplicit false

namespace ModuleResolution.Lookup

variable {ε α β : Type}

/-- A lookup that may fail and what follows on its value. -/
theorem outcome_run_bind (place : Place) (lookup : ExceptT ε Lookup α)
    (next : α → ExceptT ε Lookup β) :
    (lookup >>= next).run.outcome place =
      (lookup.run.outcome place).bind fun value => (next value).run.outcome place := by
  show (lookup.run.bind _).outcome place = _
  rw [outcome_bind]
  cases lookup.run.outcome place <;> rfl

@[simp] theorem outcome_run_lift (place : Place) (lookup : Lookup α) :
    (liftM lookup : ExceptT ε Lookup α).run.outcome place = .ok (lookup.outcome place) := by
  show (lookup.bind fun value => Lookup.done (Except.ok value)).outcome place = _
  rw [outcome_bind]
  rfl

theorem outcome_run_foldlM (place : Place)
    (step : β → α → ExceptT ε Lookup β) (base : β) (items : List α) :
    (items.foldlM step base).run.outcome place =
      items.foldlM (fun value item => (step value item).run.outcome place) base := by
  induction items generalizing base with
  | nil => rfl
  | cons item rest ih =>
      rw [List.foldlM_cons, List.foldlM_cons, outcome_run_bind]
      cases (step base item).run.outcome place with
      | error failure => rfl
      | ok value => exact ih value

theorem notes_run_bind (place : Place) (lookup : ExceptT ε Lookup α)
    (next : α → ExceptT ε Lookup β) :
    (lookup >>= next).run.notes place = lookup.run.notes place ++
      match lookup.run.outcome place with
      | .ok value => (next value).run.notes place
      | .error _ => [] := by
  show (lookup.run.bind _).notes place = _
  rw [notes_bind]
  cases lookup.run.outcome place <;> rfl

theorem notes_run_bind_eq_nil {place : Place} {lookup : ExceptT ε Lookup α}
    {next : α → ExceptT ε Lookup β} (hnotes : lookup.run.notes place = [])
    (hnext : ∀ value, lookup.run.outcome place = .ok value → (next value).run.notes place = []) :
    (lookup >>= next).run.notes place = [] := by
  rw [notes_run_bind, hnotes]
  cases hvalue : lookup.run.outcome place with
  | error failure => rfl
  | ok value => exact hnext value hvalue

end ModuleResolution.Lookup
