import ModuleResolution.Proofs.Disk.Location
import ModuleResolution.Proofs.Json.Excess
import ModuleResolution.Proofs.Resolve.Stop

/-! # What the options for failures change

Two options only say what happens after a failure. Whether a missing folder may be stood for is
consulted when the walk for the manifest finds no folder, so a strict search comes to what the
other one comes to unless it fails with just that (`Library.locate_strict`). Whether a library is
looked for a second time is consulted after the first attempt, so a path that is given without
the second attempt is given with it. After a first failure the second attempt finds the library,
or it fails and the first failure stands; but it can also come to a manifest with an excess
(`Rules.resolveLibrary_of_attempt_eq_error`), and then the first failure is hidden by it
(`Rules.resolve_of_overlong`).
-/

set_option autoImplicit false

namespace ModuleResolution

theorem Options.rules_withFallback (options : Options) (manifestFallback : Fallback) :
    { options with manifestFallback }.rules =
      { options.rules with fallback := manifestFallback } := rfl

theorem Options.rules_withRetry (options : Options) (retryFromParent : Bool) :
    { options with retryFromParent }.rules = { options.rules with retryFromParent } := rfl

/-! ## What does not depend on the options -/

section options

variable (rules : Rules) (fallback : Fallback) (retryFromParent : Bool)

theorem Library.script_with :
    script { rules with fallback, retryFromParent } = script rules := rfl

theorem Library.fileOfWalk_with :
    fileOfWalk { rules with fallback, retryFromParent } = fileOfWalk rules := rfl

theorem Walk.visited_with :
    visited { rules with fallback, retryFromParent } = visited rules := rfl

theorem Walk.outcome_namedEntry_with (place : Place) (request : Request) (target start : String)
    (mayEscalate : Bool) :
    Search.outcome place (namedEntry { rules with fallback, retryFromParent } place.cwd request
        target start mayEscalate) =
      Search.outcome place (namedEntry rules place.cwd request target start mayEscalate) := by
  rw [outcome_namedEntry, outcome_namedEntry, visited_with]

/-- Only the walk for the manifest depends on whether a missing folder may be stood for, and
nothing on whether there may be a second attempt. -/
theorem Library.outcome_locate_with (place : Place) (request : Request) (name start : String) :
    Search.outcome place
        (locate { rules with fallback, retryFromParent } place.cwd request name start) =
      (Search.outcome place (directory place.cwd request name start)).bind fun folder =>
        match (script rules name folder).outcome place with
        | some path => .ok path
        | none =>
          (Search.outcome place (Walk.namedEntry rules place.cwd request Layout.manifest folder
            (fallback == .escalate))).bind fun walk =>
              Search.outcome place (fileOfWalk rules request name walk) := by
  rw [outcome_locate]
  cases Search.outcome place (directory place.cwd request name start) with
  | error stop => rw [Except.bind, Except.bind]
  | ok folder =>
      rw [Except.bind, Except.bind, script_with]
      cases (script rules name folder).outcome place with
      | some path => rfl
      | none =>
          dsimp only
          rw [Walk.outcome_namedEntry_with, fileOfWalk_with]

theorem Rules.attempt_with :
    attempt { rules with retryFromParent } = attempt rules := by
  funext place request start
  have hchanged := Library.outcome_locate_with rules rules.fallback retryFromParent place request
    request.specifier start
  have hsame := Library.outcome_locate_with rules rules.fallback rules.retryFromParent place request
    request.specifier start
  exact hchanged.trans hsame.symm

end options

/-! ## Standing for a missing folder -/

/-- A walk that may not escalate fails for want of the folder, or comes to what it comes to when
it may. -/
theorem Walk.namedEntry_strict (rules : Rules) (place : Place) (request : Request)
    (target start : String) :
    Search.outcome place (namedEntry rules place.cwd request target start false) =
        .error (.failed ⟨request, .noAncestor target start⟩) ∨
      Search.outcome place (namedEntry rules place.cwd request target start true) =
        Search.outcome place (namedEntry rules place.cwd request target start false) := by
  -- the folder itself is the first station in both cases, and further ones only come after it
  rw [outcome_namedEntry, outcome_namedEntry, stations, stations, List.findSome?_cons,
    List.findSome?_cons]
  cases visited rules place target start with
  | some walk => exact Or.inr rfl
  | none => exact Or.inl rfl

namespace Library

variable (rules : Rules)

/-- **A strict search** fails for want of a folder, or comes to what the other one comes to. -/
theorem locate_strict (place : Place) (request : Request) (name start : String) :
    (∃ folder, Search.outcome place
        (locate { rules with fallback := .strict } place.cwd request name start) =
          .error (.failed ⟨request, .noAncestor Layout.manifest folder⟩)) ∨
      Search.outcome place
          (locate { rules with fallback := .escalate } place.cwd request name start) =
        Search.outcome place
          (locate { rules with fallback := .strict } place.cwd request name start) := by
  have hmay : ((.escalate : Fallback) == .escalate) = true := rfl
  have hmust : ((.strict : Fallback) == .escalate) = false := rfl
  -- the folder and the script are the same in both searches, so they differ in the walk at most
  rw [outcome_locate_with, outcome_locate_with, hmay, hmust]
  cases Search.outcome place (directory place.cwd request name start) with
  | error stop =>
      rw [Except.bind, Except.bind]
      exact Or.inr rfl
  | ok folder =>
      rw [Except.bind, Except.bind]
      cases (script rules name folder).outcome place with
      | some path => exact Or.inr rfl
      | none =>
          dsimp only
          rcases Walk.namedEntry_strict rules place request Layout.manifest folder with
            hmissing | hsame
          · rw [hmissing]
            exact Or.inl ⟨folder, rfl⟩
          · rw [hsame]
            exact Or.inr rfl

end Library

/-! ## The second attempt -/

namespace Rules

variable {rules : Rules} {place : Place} {request : Request}

/-- Without a second attempt the outcome is that of the first. -/
theorem outcome_resolveLibrary_once (h : rules.retryFromParent = false) :
    Search.outcome place (rules.resolveLibrary place.cwd request) =
      rules.attempt place request request.directory := by
  have hnever : ∀ failure, rules.mayRetry request failure = false := by
    intro failure
    rw [mayRetry, h]
    rfl
  rw [outcome_resolveLibrary]
  rcases rules.attempt place request request.directory with (failure | excess | failure) | path
  · dsimp only
    rw [hnever, if_neg (by simp)]
  · rfl
  · rfl
  · rfl

theorem resolveLibrary_of_attempt_eq_ok {path : String}
    (h : rules.attempt place request request.directory = .ok path) :
    Search.outcome place (rules.resolveLibrary place.cwd request) = .ok path := by
  rw [outcome_resolveLibrary, h]

/-- **What becomes of a first failure**: the library is found after all, or the failure stands, or
the second attempt comes to a manifest with an excess. -/
theorem resolveLibrary_of_attempt_eq_error {stop : Stop} (hcwd : Path.isAbsolute place.cwd = true)
    (hdisk : place.disk.IsLawful)
    (h : rules.attempt place request request.directory = .error stop) :
    let outcome := Search.outcome place (rules.resolveLibrary place.cwd request)
    (∃ path, outcome = .ok path) ∨ outcome = .error stop ∨
      ∃ manifest excess, place.HasExcess manifest excess ∧
        outcome = .error (.excessive excess) := by
  intro outcome
  have houtcome : outcome = _ := outcome_resolveLibrary rules place request
  rw [h] at houtcome
  rw [houtcome]
  cases stop with
  | excessive excess => exact Or.inr (Or.inl rfl)
  | impossible failure => exact Or.inr (Or.inl rfl)
  | failed failure =>
      dsimp only
      -- only a failure of the request is followed by a second attempt, and only if it may be
      split
      · cases hsecond : rules.attempt place request (Path.parent request.directory) with
        | ok path => exact Or.inl ⟨path, rfl⟩
        | error second =>
            rcases stop_of_attempt hcwd hdisk hsecond with
              ⟨cause, rfl⟩ | ⟨manifest, excess, hexcess, rfl⟩
            · exact Or.inr (Or.inl rfl)
            · exact Or.inr (Or.inr ⟨manifest, excess, hexcess, rfl⟩)
      · exact Or.inr (Or.inl rfl)

/-- A second attempt that comes to an excess is the last one, too. -/
theorem resolveLibrary_of_second_excessive {failure : Failure} {excess : Json.Excess}
    (hfirst : rules.attempt place request request.directory = .error (.failed failure))
    (hretry : rules.mayRetry request failure = true)
    (hsecond : rules.attempt place request (Path.parent request.directory) =
      .error (.excessive excess)) :
    Search.outcome place (rules.resolveLibrary place.cwd request) = .error (.excessive excess) := by
  rw [outcome_resolveLibrary, hfirst]
  dsimp only
  rw [if_pos hretry, hsecond]
  rfl

/-- Whether there may be a second attempt only matters for a library. -/
theorem resolve_withRetry (rules : Rules) (cwd : String) (request : Request) :
    (∀ retryFromParent,
      { rules with retryFromParent }.resolve cwd request = rules.resolve cwd request) ∨
    ∀ retryFromParent, { rules with retryFromParent }.resolve cwd request =
      { rules with retryFromParent }.resolveLibrary cwd request := by
  have hkey : ∀ retryFromParent,
      { rules with retryFromParent }.cacheKey cwd request = rules.cacheKey cwd request :=
    fun _ => rfl
  unfold resolve
  simp only [hkey]
  cases rules.cacheKey cwd request with
  | builtin specifier => exact Or.inl fun _ => rfl
  | library specifier directory => exact Or.inr fun _ => rfl
  | file path => exact Or.inl fun _ => rfl

end Rules

/-! ## Both options -/

/-- **The options for failures only turn failures into successes**, as long as no manifest has an
excess. A library that is located by a strict search is located at the same path by one that may
escalate, and any failure other than for want of a folder is the same for both. A request that is
met without a second attempt is met with the same path when there may be one; and one that is not
met is met then, or it fails in the same way, or some manifest has an excess. -/
theorem Rules.resolve_of_fallbacks (options : Options) (place : Place)
    (hcwd : Path.isAbsolute place.cwd = true) (hdisk : place.disk.IsLawful) (request : Request) :
    (∀ name start,
      let locate (fallback : Fallback) := Search.outcome place (Library.locate
        { options with manifestFallback := fallback }.rules place.cwd request name start)
      (∀ path, locate .strict = .ok path → locate .escalate = .ok path) ∧
      ∀ stop, locate .strict = .error stop →
        (∀ failure, stop = .failed failure → failure.kind ≠ .invalidAncestorPath) →
        locate .escalate = .error stop) ∧
    let resolve (retry : Bool) := Search.outcome place
      ({ options with retryFromParent := retry }.rules.resolve place.cwd request)
    (∀ path, resolve false = .ok path → resolve true = .ok path) ∧
    ∀ stop, resolve false = .error stop →
      (∃ path, resolve true = .ok path) ∨ resolve true = .error stop ∨
        ∃ manifest excess, place.HasExcess manifest excess ∧
          resolve true = .error (.excessive excess) := by
  simp only [Options.rules_withFallback, Options.rules_withRetry]
  refine ⟨fun name start => ?_, ?_⟩
  -- a strict search differs only where the folder is missing, and there it fails
  · rcases Library.locate_strict options.rules place request name start with
      ⟨folder, hmissing⟩ | hsame
    · rw [hmissing]
      refine ⟨fun path h => ?_, fun stop h hkind => ?_⟩
      · cases h
      · cases h
        exact absurd rfl (hkind _ rfl)
    · rw [hsame]
      exact ⟨fun path h => h, fun stop h _ => h⟩
  -- a second attempt is only made for libraries, and only after the first has failed
  · rcases resolve_withRetry options.rules place.cwd request with hsame | hlibrary
    · rw [hsame false, hsame true]
      exact ⟨fun path h => h, fun stop h => Or.inr (Or.inl h)⟩
    · rw [hlibrary false, hlibrary true, outcome_resolveLibrary_once rfl, attempt_with,
        ← attempt_with options.rules true]
      refine ⟨fun path h => ?_, fun stop h => ?_⟩
      · exact resolveLibrary_of_attempt_eq_ok h
      · exact resolveLibrary_of_attempt_eq_error hcwd hdisk h

/-- A place with an empty folder for a library `a`, and some libraries one folder up. -/
def Place.shadowed (libraries : Disk) : Place :=
  ⟨.subfolder "q" (.subfolder "p" (.subfolder "node_modules" (.subfolder "a" .empty .empty) .empty)
    (.subfolder "node_modules" libraries .empty)) .empty, "/q/p"⟩

/-- A library with a script further up, looked for from below and from there. -/
theorem Rules.resolve_of_fallbacks_shadowed :
    let place := Place.shadowed (.file "a.js" [] .empty)
    let failure : Failure := ⟨⟨"a", "/q/p"⟩, .noManifest "/q/p/node_modules/a"⟩
    Search.outcome place (Library.locate ({ manifestFallback := .escalate } : Options).rules "/q/p"
        failure.request "a" "/q/p") = .error (.failed failure) ∧
      Search.outcome place (({ retryFromParent := true } : Options).rules.resolve "/q/p"
        ⟨"a", "/q"⟩) = .ok "/q/node_modules/a.js" := by
  intro place failure
  obtain ⟨hlocate, -⟩ := resolve_of_fallbacks {} place (by decide +kernel) (by decide +kernel)
    failure.request
  obtain ⟨-, hresolve, -⟩ := resolve_of_fallbacks {} place (by decide +kernel) (by decide +kernel)
    ⟨"a", "/q"⟩
  refine ⟨(hlocate "a" "/q/p").2 _ (by decide +kernel) ?_, hresolve _ (by decide +kernel)⟩
  intro other hother
  cases hother
  decide

/-- **Too long a number further up hides the first failure.** -/
theorem Rules.resolve_of_overlong :
    let options : Options := {}
    let manifest : List UInt8 := List.replicate (digitLimit + 1) 0x31
    let place := Place.shadowed (.subfolder "a" (.file "package.json" manifest .empty) .empty)
    let request : Request := ⟨"a", "/q/p"⟩
    let resolve (retry : Bool) := Search.outcome place
      ({ options with retryFromParent := retry }.rules.resolve "/q/p" request)
    resolve false = .error (.failed ⟨request, .noManifest "/q/p/node_modules/a"⟩) ∧
      resolve true = .error (.excessive (.digits (digitLimit + 1))) := by
  intro options manifest place request resolve
  -- the number is too long to be evaluated, so the attempt that reads it is put together by hand
  have hlocate : place.disk.locate "/q/p" "/q/node_modules/a/package.json" =
      .ok ["q", "node_modules", "a", "package.json"] :=
    Disk.locate_of_normal (by decide +kernel) (by decide +kernel) (by decide +kernel)
      (by decide +kernel)
  have hexcess : place.HasExcess "/q/node_modules/a/package.json" (.digits (digitLimit + 1)) := by
    refine Place.hasExcess_of_ones (by decide +kernel) (Nat.lt_succ_self _) ?_
    exact Disk.readOctets_of_locate hlocate rfl
  have hfolder : Search.outcome place (Library.directory "/q/p" request "a" "/q") =
      .ok "/q/node_modules/a" := by decide +kernel
  have hwalk : Search.outcome place (Walk.namedEntry options.rules "/q/p" request
      Layout.manifest "/q/node_modules/a" true) =
        .ok ⟨"/q/node_modules/a", some "/q/node_modules/a/package.json"⟩ := by decide +kernel
  have hfirst : options.rules.attempt place request "/q/p" =
      .error (.failed ⟨request, .noManifest "/q/p/node_modules/a"⟩) := by decide +kernel
  have hsecond : options.rules.attempt place request (Path.parent request.directory) =
      .error (.excessive (.digits (digitLimit + 1))) := by
    have hparent : Path.parent request.directory = "/q" := by decide +kernel
    rw [hparent]
    exact Library.locate_of_hasExcess hfolder (by decide +kernel) hwalk rfl hexcess
  have hbuiltin : options.rules.builtins.contains request.specifier = false := by decide +kernel
  have hlibrary : ∀ retry, resolve retry = Search.outcome place
      ({ options.rules with retryFromParent := retry }.resolveLibrary place.cwd request) :=
    fun retry => congrArg (Search.outcome place)
      (resolve_eq_resolveLibrary (by decide +kernel) hbuiltin)
  rw [hlibrary, hlibrary]
  constructor
  · rw [outcome_resolveLibrary_once rfl, attempt_with]
    exact hfirst
  · rw [← attempt_with options.rules true] at hfirst hsecond
    exact resolveLibrary_of_second_excessive hfirst (by decide +kernel) hsecond

end ModuleResolution
