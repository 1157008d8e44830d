import ModuleResolution.Proofs.Resolve.Probe
import ModuleResolution.Resolve.Session

/-! # What a resolution comes to

The outcome of resolving a request whatever was resolved before, by the class of its key: a
builtin is its own path, a path is what probing finds (`outcome_resolveFile`), and a library is
what the first attempt to locate it gives or, when that fails and another attempt is allowed, what
the second one gives, if it gives a path (`outcome_resolveLibrary`).
-/

set_option autoImplicit false

namespace ModuleResolution.Rules

variable (rules : Rules) (place : Place)

/-- One attempt to locate the library of a request, from some folder. -/
def attempt (request : Request) (start : String) : Except Stop String :=
  Search.outcome place (Library.locate rules place.cwd request request.specifier start)

/-- A second attempt only counts when it does not fail. -/
def orFirst (first : Failure) : Except Stop String → Except Stop String
  | .error (.failed _) => .error (.failed first)
  | result => result

theorem outcome_retryLibrary (request : Request) (first : Failure) :
    Search.outcome place (rules.retryLibrary place.cwd request first) =
      orFirst first (rules.attempt place request (Path.parent request.directory)) := by
  show (Lookup.bind _ _).outcome place = _
  rw [Lookup.outcome_bind]
  show _ = orFirst first ((Library.locate rules place.cwd request request.specifier
    (Path.parent request.directory)).run.outcome place)
  generalize (Library.locate rules place.cwd request request.specifier
    (Path.parent request.directory)).run.outcome place = second
  rcases second with (failure | excess | failure) | path <;> rfl

/-- **Resolving a library**: the first attempt, or the second when the first fails in a way that
allows for one. -/
theorem outcome_resolveLibrary (request : Request) :
    Search.outcome place (rules.resolveLibrary place.cwd request) =
      match rules.attempt place request request.directory with
      | .error (.failed failure) =>
        if rules.mayRetry request failure then
          orFirst failure (rules.attempt place request (Path.parent request.directory))
        else .error (.failed failure)
      | result => result := by
  show (Lookup.bind _ _).outcome place = _
  rw [Lookup.outcome_bind]
  unfold attempt Search.outcome
  generalize (Library.locate rules place.cwd request request.specifier
    request.directory).run.outcome place = first
  rcases first with (failure | excess | failure) | path
  · simp only
    split
    · exact outcome_retryLibrary rules place request failure
    · rfl
  · rfl
  · rfl
  · rfl

/-- A specifier of a library that is no builtin is resolved as a library. -/
theorem resolve_eq_resolveLibrary {rules : Rules} {cwd : String} {request : Request}
    (hlibrary : Specifier.namesLibrary request.specifier = true)
    (hbuiltin : rules.builtins.contains request.specifier = false) :
    rules.resolve cwd request = rules.resolveLibrary cwd request := by
  have hkey : rules.cacheKey cwd request = .library request.specifier request.directory := by
    rw [cacheKey, if_pos hlibrary, if_neg (by simp [hbuiltin])]
  rw [resolve, hkey]
  rfl

/-- A first attempt that comes to an excess is the last one. -/
theorem resolveLibrary_of_excessive {rules : Rules} {place : Place} {request : Request}
    {excess : Json.Excess}
    (h : rules.attempt place request request.directory = .error (.excessive excess)) :
    Search.outcome place (rules.resolveLibrary place.cwd request) = .error (.excessive excess) := by
  rw [outcome_resolveLibrary, h]

/-- The path of a library is found by one of the attempts. -/
theorem attempt_of_resolveLibrary {rules : Rules} {place : Place} {request : Request}
    {path : String}
    (h : Search.outcome place (rules.resolveLibrary place.cwd request) = .ok path) :
    ∃ start, rules.attempt place request start = .ok path := by
  rw [outcome_resolveLibrary] at h
  rcases hfirst : rules.attempt place request request.directory
    with (failure | excess | failure) | found
  · simp only [hfirst] at h
    split at h
    · -- a retry: only its path is passed on, its failure is not
      refine ⟨Path.parent request.directory, ?_⟩
      rcases hsecond : rules.attempt place request (Path.parent request.directory)
        with (failure | excess | failure) | found
      · simp [hsecond, orFirst] at h
      · simp [hsecond, orFirst] at h
      · simp [hsecond, orFirst] at h
      · simpa [hsecond, orFirst] using h
    · simp at h
  · simp [hfirst] at h
  · simp [hfirst] at h
  · refine ⟨request.directory, ?_⟩
    simpa [hfirst] using h

/-- **Resolving a path**: what probing finds, or the failure that there is no file. -/
theorem outcome_resolveFile (request : Request) (path : String) :
    Search.outcome place (rules.resolveFile request path) =
      match (rules.probed path).find? place.isFile with
      | some found => .ok found
      | none => .error (.failed ⟨request, .noFile path⟩) := by
  rw [resolveFile, Search.outcome_bind, Search.outcome_lift, outcome_probeFile]
  show Search.outcome place _ = _
  cases (rules.probed path).find? place.isFile <;> rfl

theorem resolveFile_eq_ok {rules : Rules} {place : Place} {request : Request}
    {path found : String} :
    Search.outcome place (rules.resolveFile request path) = .ok found ↔
      (rules.probed path).find? place.isFile = some found := by
  rw [outcome_resolveFile]
  cases (rules.probed path).find? place.isFile <;> simp

end ModuleResolution.Rules
