import ModuleResolution.Proofs.Resolve.Manifest
import ModuleResolution.Proofs.Resolve.Walk
import ModuleResolution.Resolve.Library

/-! # A request is only an address

Where a library is looked for depends on its name and on the folder that the search starts from.
The request that the search is made for is only what a failure is addressed to: made for another
request, the search comes to the same path, and when it fails it fails in the same way
(`Library.isAddressed_locate`). So an attempt that is made on behalf of an earlier request finds
what it would find on its own.
-/

set_option autoImplicit false

namespace ModuleResolution

/-- The same stop with its failure, if it is one, addressed to another request. -/
def Stop.about (request : Request) : Stop → Stop
  | .failed failure => .failed ⟨request, failure.cause⟩
  | .excessive excess => .excessive excess
  | .impossible failure => .impossible failure

namespace Search

variable {α β : Type} {place : Place}

/-- A search whose request is only what its failures are addressed to. -/
def IsAddressed (place : Place) (search : Request → Search α) : Prop :=
  ∀ request other, outcome place (search other) =
    (outcome place (search request)).mapError (Stop.about other)

theorem isAddressed_fail (cause : Cause) :
    IsAddressed place fun request => (fail request cause : Search α) :=
  fun _ _ => rfl

theorem isAddressed_pure (value : α) : IsAddressed place fun _ => (pure value : Search α) :=
  fun _ _ => rfl

theorem isAddressed_lift (lookup : Lookup α) :
    IsAddressed place fun _ => (liftM lookup : Search α) := by
  intro request other
  rw [outcome_lift]
  rfl

/-- A search followed by others is addressed when all of them are. -/
theorem IsAddressed.bind {search : Request → Search α} {next : α → Request → Search β}
    (hsearch : IsAddressed place search) (hnext : ∀ value, IsAddressed place (next value)) :
    IsAddressed place fun request => search request >>= fun value => next value request := by
  intro request other
  rw [outcome_bind, outcome_bind, hsearch request other]
  cases outcome place (search request) with
  | error stop => rfl
  | ok value => exact hnext value request other

end Search

open Search

variable {rules : Rules} {place : Place}

theorem Manifest.isAddressed_load (path : String) :
    IsAddressed place fun request => load request path := by
  intro request other
  rw [outcome_load, outcome_load]
  rcases place.readText path with (⟨⟨fault, _⟩⟩ | ⟨failure, octets⟩) | text
  · cases fault <;> rfl
  · rfl
  · dsimp only
    rcases ofText text with (fault | excess) | entries <;> rfl

theorem Manifest.isAddressed_entryPath (path : String) :
    IsAddressed place fun request => entryPath rules request path :=
  (isAddressed_load path).bind fun _ => (isAddressed_lift _).bind fun _ => isAddressed_pure _

theorem Walk.isAddressed_namedEntry (target folder : String) (mayEscalate : Bool) :
    IsAddressed place fun request =>
      namedEntry rules place.cwd request target folder mayEscalate := by
  intro request other
  rw [outcome_namedEntry, outcome_namedEntry]
  cases (stations place folder mayEscalate).findSome? (visited rules place target) <;> rfl

namespace Library

theorem isAddressed_directory (name start : String) :
    IsAddressed place fun request => directory place.cwd request name start := by
  unfold directory
  dsimp only
  split
  · exact isAddressed_fail _
  · split
    · exact isAddressed_pure _
    · refine (isAddressed_lift _).bind fun found => ?_
      cases found with
      | none => exact isAddressed_fail _
      | some root => exact isAddressed_pure _

theorem isAddressed_entryFile (manifest folder : String) :
    IsAddressed place fun request => entryFile rules request manifest folder := by
  refine (Manifest.isAddressed_entryPath manifest).bind fun entry => ?_
  split
  · exact isAddressed_pure _
  · refine (isAddressed_lift _).bind fun found => ?_
    cases found with
    | none => exact isAddressed_fail _
    | some path => exact isAddressed_pure _

theorem isAddressed_fileOfWalk (name : String) (walk : Walk) :
    IsAddressed place fun request => fileOfWalk rules request name walk := by
  unfold fileOfWalk
  cases walk.found with
  | some manifest => exact isAddressed_entryFile manifest walk.directory
  | none =>
      refine (isAddressed_lift _).bind fun found => ?_
      cases found with
      | none => exact isAddressed_fail _
      | some path => exact isAddressed_pure _

/-- **The request does not change what is located.** -/
theorem isAddressed_locate (name start : String) :
    IsAddressed place fun request => locate rules place.cwd request name start := by
  refine (isAddressed_directory name start).bind fun folder => ?_
  refine (isAddressed_lift _).bind fun found => ?_
  cases found with
  | some path => exact isAddressed_pure _
  | none =>
      refine (Walk.isAddressed_namedEntry _ _ _).bind fun walk => ?_
      exact isAddressed_fileOfWalk name walk

end Library

end ModuleResolution
