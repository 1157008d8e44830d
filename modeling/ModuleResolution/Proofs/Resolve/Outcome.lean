import ModuleResolution.Resolve.Walk

/-! # Outcomes of searches

What a search comes to at a place: a value, or the reason why it stopped. A search followed by
another one comes to what the second comes to for the value of the first (`outcome_bind`), so a
search that gives a value can be taken apart step by step (`outcome_bind_eq_ok`), and so can one
that stops (`outcome_bind_eq_error`).
-/

set_option autoImplicit false

namespace ModuleResolution

def Place.isFile (place : Place) (path : String) : Bool := place.kind? path == some .file

@[simp] theorem Place.isFile_iff (place : Place) (path : String) :
    place.isFile path = true ↔ place.kind? path = some .file := by
  simp [isFile]

/-- The place in a folder `/p` that holds one empty file and nothing else is on the disk. -/
def Place.alone (name : String) : Place := ⟨.subfolder "p" (.file name [] .empty) .empty, "/p"⟩

namespace Search

variable {α β : Type} (place : Place)

/-- What a search comes to at a place. -/
def outcome (search : Search α) : Except Stop α := search.run.outcome place

/-- A lookup always comes to a value. -/
@[simp] theorem outcome_lift (lookup : Lookup α) :
    outcome place (liftM lookup : Search α) = .ok (lookup.outcome place) := by
  show (lookup.bind fun value => Lookup.done (Except.ok value)).outcome place = _
  rw [Lookup.outcome_bind]
  rfl

theorem outcome_bind (search : Search α) (next : α → Search β) :
    outcome place (search >>= next) =
      (outcome place search).bind fun value => outcome place (next value) := by
  show (search.run.bind _).outcome place = _
  rw [Lookup.outcome_bind]
  show _ = Except.bind (search.run.outcome place) _
  cases search.run.outcome place with
  | error stop => rfl
  | ok value => rfl

/-- **A search that gives a value, taken apart.** -/
theorem outcome_bind_eq_ok {search : Search α} {next : α → Search β} {value : β} :
    outcome place (search >>= next) = .ok value ↔
      ∃ first, outcome place search = .ok first ∧ outcome place (next first) = .ok value := by
  rw [outcome_bind]
  cases outcome place search with
  | error stop => simp [Except.bind]
  | ok first => simp [Except.bind]

/-- **A search that stops** does so in its first part, or in what follows on its value. -/
theorem outcome_bind_eq_error {search : Search α} {next : α → Search β} {stop : Stop} :
    outcome place (search >>= next) = .error stop ↔
      outcome place search = .error stop ∨
        ∃ first, outcome place search = .ok first ∧ outcome place (next first) = .error stop := by
  rw [outcome_bind]
  cases outcome place search with
  | error other => simp [Except.bind]
  | ok first => simp [Except.bind]

end Search

end ModuleResolution
