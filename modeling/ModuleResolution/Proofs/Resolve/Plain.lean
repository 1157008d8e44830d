import ModuleResolution.Proofs.Resolve.Address
import ModuleResolution.Proofs.Resolve.Stop

/-! # The second attempt

A library is looked for a second time only after certain failures. Where it is looked for in plain
words, from the folder and then from its parent, whatever the first failure was (`Rules.plain`),
the outcome is the same: the failures that are never followed by a second attempt are those that
it would fail with, too (`Library.locate_parent_of_isOfFolder`), since there is nothing above the
parent that is not above the folder. This holds as long as no manifest has an excess, which ends
both attempts at once (`Rules.outcome_resolveLibrary_eq_plain`).
-/

set_option autoImplicit false

namespace ModuleResolution

namespace Library

variable {rules : Rules} {place : Place} {request : Request}

/-- **The folder of a library that cannot be told from somewhere** cannot be told from its parent
either. -/
theorem directory_parent {name start : String} {stop : Stop} (hstart : Path.isAbsolute start = true)
    (h : Search.outcome place (directory place.cwd request name start) = .error stop)
    (other : Request) :
    ∃ cause, Search.outcome place (directory place.cwd other name (Path.parent start)) =
      .error (.failed ⟨other, cause⟩) := by
  rcases directory_cases place other name (Path.parent start) with ⟨-, hcase⟩ |
    ⟨hnames, hrooted, -⟩ | ⟨hnames, -, root, hnearest, -⟩ | ⟨-, -, -, hcase⟩
  · exact ⟨_, hcase⟩
  · rcases cause_of_directory h with ⟨hnone, -⟩ | ⟨-, hunrooted, -, -⟩
    · exact absurd hnone hnames
    · exact absurd hrooted hunrooted
  · rcases cause_of_directory h with ⟨hnone, -⟩ | ⟨-, -, hnowhere, -⟩
    · exact absurd hnone hnames
    · rw [Walk.nearest_parent_eq_none hstart hnowhere] at hnearest
      cases hnearest
  · exact ⟨_, hcase⟩

/-- **Failures that a second attempt cannot mend**: when the folder of a library cannot be told,
the library is not located from the parent either. -/
theorem locate_parent_of_isOfFolder {name start : String} {failure : Failure}
    (hcwd : Path.isAbsolute place.cwd = true) (hdisk : place.disk.IsLawful)
    (hstart : Path.isAbsolute start = true)
    (h : Search.outcome place (locate rules place.cwd request name start) =
      .error (.failed failure))
    (hcause : failure.cause.IsOfFolder) (other : Request) :
    ∃ second, Search.outcome place (locate rules place.cwd other name (Path.parent start)) =
      .error (.failed second) := by
  rcases stop_of_locate hcwd hdisk h with hfolder | ⟨cause, hother, heq⟩ | ⟨_, _, _, heq⟩
  · obtain ⟨cause, hparent⟩ := directory_parent hstart hfolder other
    refine ⟨⟨other, cause⟩, ?_⟩
    rw [locate, Search.outcome_bind, hparent]
    rfl
  · cases heq
    exact absurd hcause hother
  · cases heq

end Library

namespace Rules

variable {rules : Rules} {place : Place} {request : Request}

/-- Looking for the library of a request in plain words: from its folder or else, when that is
allowed and there is a parent, from the parent; when both fail, the first failure stands. -/
def plain (rules : Rules) (place : Place) (request : Request) : Except Stop String :=
  let parent := Path.parent request.directory
  match rules.attempt place request request.directory with
  | .ok path => .ok path
  | .error first =>
    if rules.retryFromParent && parent != request.directory then
      match rules.attempt place ⟨request.specifier, parent⟩ parent with
      | .ok path => .ok path
      | .error _ => .error first
    else .error first

/-- In plain words, any first stop leads to the second attempt. -/
theorem plain_of_second {stop : Stop} {path : String}
    (hfirst : rules.attempt place request request.directory = .error stop)
    (hretry : rules.retryFromParent = true)
    (hparent : Path.parent request.directory ≠ request.directory)
    (hsecond : rules.attempt place ⟨request.specifier, Path.parent request.directory⟩
      (Path.parent request.directory) = .ok path) : rules.plain place request = .ok path := by
  rw [plain, hfirst]
  dsimp only
  rw [hretry, bne_iff_ne.mpr hparent, hsecond]
  rfl

/-- A second attempt counts for the same whatever request it is made for. -/
theorem orFirst_attempt {start : String} {first : Failure} (request other : Request)
    (hname : request.specifier = other.specifier)
    (hexcess : ∀ excess, rules.attempt place other start ≠ .error (.excessive excess))
    (himpossible : ∀ failure, rules.attempt place other start ≠ .error (.impossible failure)) :
    orFirst first (rules.attempt place request start) =
      match rules.attempt place other start with
      | .ok path => .ok path
      | .error _ => .error (.failed first) := by
  have hsame : rules.attempt place request start =
      (rules.attempt place other start).mapError (Stop.about request) := by
    unfold attempt
    rw [hname]
    exact Library.isAddressed_locate other.specifier start other request
  rw [hsame]
  cases hattempt : rules.attempt place other start with
  | ok path => rfl
  | error stop =>
      cases stop with
      | failed second => rfl
      | excessive excess => exact absurd hattempt (hexcess excess)
      | impossible failure => exact absurd hattempt (himpossible failure)

theorem attempt_ne_impossible {start : String} (hcwd : Path.isAbsolute place.cwd = true)
    (hdisk : place.disk.IsLawful) (failure : DiskFailure) :
    rules.attempt place request start ≠ .error (.impossible failure) := by
  intro h
  rcases stop_of_attempt hcwd hdisk h with ⟨cause, heq⟩ | ⟨_, _, _, heq⟩
  · cases heq
  · cases heq

/-- Any other failure is followed by a second attempt when that is allowed and there is a parent. -/
theorem mayRetry_of_not_isOfFolder {failure : Failure} (h : ¬ failure.cause.IsOfFolder) :
    rules.mayRetry request failure =
      (rules.retryFromParent && Path.parent request.directory != request.directory) := by
  rw [Cause.IsOfFolder, not_or] at h
  have hroot : (failure.kind != .dependencyRootNotFound) = true := bne_iff_ne.mpr h.1
  have hfile : (failure.kind != .fileNotFound) = true := bne_iff_ne.mpr h.2
  rw [mayRetry, hroot, hfile, Bool.and_true, Bool.and_true]

/-- **Resolving a library is looking for it in plain words**, as long as neither attempt comes to
a manifest with an excess. -/
theorem outcome_resolveLibrary_eq_plain (hcwd : Path.isAbsolute place.cwd = true)
    (hdisk : place.disk.IsLawful) (hdirectory : Path.isAbsolute request.directory = true)
    (hfirst : ∀ excess,
      rules.attempt place request request.directory ≠ .error (.excessive excess))
    (hsecond : ∀ excess, rules.attempt place ⟨request.specifier, Path.parent request.directory⟩
      (Path.parent request.directory) ≠ .error (.excessive excess)) :
    Search.outcome place (rules.resolveLibrary place.cwd request) = rules.plain place request := by
  rw [outcome_resolveLibrary, plain]
  cases hattempt : rules.attempt place request request.directory with
  | ok path => rfl
  | error stop =>
      cases stop with
      | excessive excess => exact absurd hattempt (hfirst excess)
      | impossible failure => exact absurd hattempt (attempt_ne_impossible hcwd hdisk failure)
      | failed failure =>
          dsimp only
          rw [orFirst_attempt request ⟨request.specifier, Path.parent request.directory⟩ rfl
            hsecond (attempt_ne_impossible hcwd hdisk)]
          by_cases hcause : failure.cause.IsOfFolder
          · -- no second attempt is made, and it would fail
            obtain ⟨second, hfails⟩ := Library.locate_parent_of_isOfFolder hcwd hdisk hdirectory
              hattempt hcause ⟨request.specifier, Path.parent request.directory⟩
            have hagain : rules.attempt place ⟨request.specifier, Path.parent request.directory⟩
                (Path.parent request.directory) = .error (.failed second) := hfails
            rw [hagain]
            simp
          · rw [mayRetry_of_not_isOfFolder hcause]

end Rules

end ModuleResolution
