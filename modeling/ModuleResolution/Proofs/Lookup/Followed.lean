import ModuleResolution.Logging.Journal
import ModuleResolution.Proofs.Lookup.Failing

/-! # Lookups that are followed

A journal that follows a lookup logs each note where it is taken. What it logs does not change the
outcome if the notes are taken behind the last question (`Follows`).
-/

set_option autoImplicit false

namespace ModuleResolution

/-- Three actions in a row. -/
theorem Action.bind_assoc {α β γ : Type} (x : Action α) (f : α → Action β) (g : β → Action γ) :
    (x.bind f).bind g = x.bind fun value => (f value).bind g := by
  induction x with
  | done value => rfl
  | kind path next ih => exact congrArg _ (funext ih)
  | text path next ih => exact congrArg _ (funext ih)
  | shape path next ih => exact congrArg _ (funext ih)
  | makeFolders path next ih => exact congrArg _ (funext ih)
  | write path content next ih => exact congrArg _ (funext ih)
  | append path content next ih => exact congrArg _ (funext ih)
  | time next ih => exact congrArg _ (funext ih)

namespace Journal

variable {ε α β : Type}

/-- The place that is left when notes are logged. -/
def placeAfter (journal : Journal) (moment : String) (place : Place) (notes : List Note) : Place :=
  notes.foldl (fun place note => ((journal.logNote note).run moment place).2) place

/-- What is logged of a lookup does not change its outcome. -/
def Follows (journal : Journal) (moment : String) (place : Place) (lookup : Lookup α) : Prop :=
  (journal.follow lookup).run moment place =
    (lookup.outcome place, journal.placeAfter moment place (lookup.notes place))

theorem follow_bind (journal : Journal) (lookup : Lookup α) (next : α → Lookup β) :
    journal.follow (lookup.bind next) =
      (journal.follow lookup).bind fun value => journal.follow (next value) := by
  unfold follow
  induction lookup with
  | done value => rfl
  | note line rest ih =>
      show (journal.logNote line).bind _ = ((journal.logNote line).bind _).bind _
      rw [Action.bind_assoc, ih]
  | kind path answer ih => exact congrArg _ (funext ih)
  | text path answer ih => exact congrArg _ (funext ih)
  | shape path answer ih => exact congrArg _ (funext ih)

/-- A lookup that may fail is followed step by step. -/
theorem run_follow_bind (journal : Journal) (moment : String) (place : Place)
    (lookup : ExceptT ε Lookup α) (next : α → ExceptT ε Lookup β) :
    (journal.follow (lookup >>= next).run).run moment place =
      match (journal.follow lookup.run).run moment place with
      | (.ok value, left) => (journal.follow (next value).run).run moment left
      | (.error failure, left) => (.error failure, left) := by
  show (journal.follow (lookup.run.bind _)).run moment place = _
  rw [follow_bind, Action.run_bind]
  cases (journal.follow lookup.run).run moment place with
  | mk value left => cases value <;> rfl

section Follows

variable {journal : Journal} {moment : String} {place : Place} {lookup : ExceptT ε Lookup α}
  {next : α → ExceptT ε Lookup β}

/-- No notes are taken before the next lookup. -/
theorem Follows.bind_of_notes (hlookup : journal.Follows moment place lookup.run)
    (hnotes : lookup.run.notes place = [])
    (hnext : ∀ value, lookup.run.outcome place = .ok value →
      journal.Follows moment place (next value).run) :
    journal.Follows moment place (lookup >>= next).run := by
  unfold Follows at hlookup ⊢
  rw [hnotes] at hlookup
  rw [run_follow_bind, hlookup, Lookup.outcome_run_bind, Lookup.notes_run_bind, hnotes]
  cases hvalue : lookup.run.outcome place with
  | error failure => rfl
  | ok value => exact hnext value hvalue

/-- What comes next is settled without questions and notes. -/
theorem Follows.bind_done {settle : α → Except ε β}
    (hlookup : journal.Follows moment place lookup.run) :
    journal.Follows moment place (lookup >>= fun value => .mk (.done (settle value))).run := by
  unfold Follows at hlookup ⊢
  rw [run_follow_bind, hlookup, Lookup.outcome_run_bind, Lookup.notes_run_bind]
  cases lookup.run.outcome place with
  | error failure => simp; rfl
  | ok value => simp; rfl

end Follows

end Journal

end ModuleResolution
