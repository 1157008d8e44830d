import ModuleResolution.Proofs.Resolve.Locate
import ModuleResolution.Proofs.Resolve.Retry

/-! # Why a resolution stops

On a lawful disk a request that is not met fails with a cause and is itself in the failure, never
a place that was tried on the way, or a manifest was read that exceeds what a reader takes
(`stop_of_resolve`). The causes of the several searches are kept apart as far as a retry depends on
them: that a name is that of no library, or that there is no dependency root, is only found out
when the folder of the library is looked for (`stop_of_locate`). The wording of every failure holds
the specifier of its request, and behind it the folder (`Failure.names_message`).
-/

set_option autoImplicit false

namespace ModuleResolution

/-! ## Wording -/

namespace Failure

/-- A text that holds the specifier of a request, and behind it the folder of the request. -/
def Names (text : String) (request : Request) : Prop :=
  ∃ before between after,
    text = before ++ request.specifier ++ between ++ request.directory ++ after

theorem names_unreadableManifest (request : Request) (manifest why : String) :
    Names (unreadableManifest request manifest why) request := by
  unfold unreadableManifest
  refine ⟨"Could not read " ++ manifest ++ " while resolving '", "' from '", "': " ++ why, ?_⟩
  simp only [← String.append_assoc]

/-- **Every wording names the request.** -/
theorem names_message (failure : Failure) : Names failure.message failure.request := by
  obtain ⟨request, cause⟩ := failure
  -- for each cause, what stands around the specifier and the folder
  cases cause with
  | noLibrary =>
      refine ⟨"'", "'" ++ " (from " ++ "'", "'" ++ ") does not name a library", ?_⟩
      simp only [message, ← String.append_assoc]
  | noDependencyRoot =>
      refine ⟨"Could not locate '" ++ Layout.dependencyRoot ++ "' for " ++ "'",
        "'" ++ " in neither " ++ "'", "'" ++ " nor any parent directory", ?_⟩
      simp only [message, ← String.append_assoc]
  | noManifest folder =>
      refine ⟨"Could not find a " ++ Layout.manifest ++ " for " ++ "'", "'" ++ " (from " ++ "'",
        "'" ++ ") within directory: " ++ folder, ?_⟩
      simp only [message, ← String.append_assoc]
  | noEntry entry manifest =>
      refine ⟨"No file on disk matches the entry " ++ entry ++ " declared in " ++ manifest
        ++ " (resolving " ++ "'", "'" ++ " from " ++ "'", "'" ++ ")", ?_⟩
      simp only [message, ← String.append_assoc]
  | noFile path =>
      refine ⟨"Could not find a file on disk for " ++ "'", "'" ++ " (from " ++ "'",
        "'" ++ "): " ++ path, ?_⟩
      simp only [message, ← String.append_assoc]
  | noAncestor target folder =>
      refine ⟨"No '" ++ target ++ "' found for " ++ "'",
        "'" ++ ": " ++ folder ++ " does not exist in " ++ "'",
        "'" ++ " nor any parent directory", ?_⟩
      simp only [message, ← String.append_assoc]
  | badManifest manifest fault =>
      cases fault with
      | unreadable why => exact names_unreadableManifest request manifest why.message
      | malformed cause text offset => exact names_unreadableManifest request manifest _
      | notObject =>
          refine ⟨manifest ++ " does not contain a JSON object (resolving " ++ "'",
            "'" ++ " from " ++ "'", "'" ++ ")", ?_⟩
          simp only [message, ← String.append_assoc]

end Failure

/-! ## Libraries -/

/-- The cause is found out when the folder of a library is looked for: a retry is no use. -/
def Cause.IsOfFolder (cause : Cause) : Prop :=
  cause.kind = .dependencyRootNotFound ∨ cause.kind = .fileNotFound

/-- Why a search with a request may stop once the folder of its library is known. -/
def Stop.IsOfManifest (place : Place) (request : Request) (stop : Stop) : Prop :=
  (∃ cause : Cause, ¬ cause.IsOfFolder ∧ stop = .failed ⟨request, cause⟩) ∨
    ∃ manifest excess, place.HasExcess manifest excess ∧ stop = .excessive excess

namespace Library

variable {rules : Rules} {place : Place} {request : Request} {stop : Stop}

theorem stop_of_entryFile {manifest folder : String}
    (hnamed : Path.fileName manifest = Layout.manifest)
    (hpossible : Disk.isImpossible manifest = false)
    (h : Search.outcome place (entryFile rules request manifest folder) = .error stop) :
    stop.IsOfManifest place request := by
  rw [entryFile, Search.outcome_bind_eq_error] at h
  rcases h with hentry | ⟨entry, -, h⟩
  · rcases Manifest.stop_of_entryPath hnamed hpossible hentry with
      ⟨fault, rfl⟩ | ⟨excess, hexcess, rfl⟩
    · exact Or.inl ⟨_, by simp [Cause.IsOfFolder, Cause.kind], rfl⟩
    · exact Or.inr ⟨manifest, excess, hexcess, rfl⟩
  · split at h
    · cases h
    · rw [Search.outcome_bind_eq_error, Search.outcome_lift] at h
      rcases h with hlookup | ⟨found, -, hfound⟩
      · cases hlookup
      · cases found with
        | some path => cases hfound
        | none =>
            cases hfound
            exact Or.inl ⟨_, by simp [Cause.IsOfFolder, Cause.kind], rfl⟩

theorem stop_of_fileOfWalk {name : String} {walk : Walk}
    (hfound : ∀ manifest, walk.found = some manifest →
      Path.fileName manifest = Layout.manifest ∧ Disk.isImpossible manifest = false)
    (h : Search.outcome place (fileOfWalk rules request name walk) = .error stop) :
    stop.IsOfManifest place request := by
  unfold fileOfWalk at h
  split at h
  · next manifest hmanifest =>
      obtain ⟨hnamed, hpossible⟩ := hfound manifest hmanifest
      exact stop_of_entryFile hnamed hpossible h
  · rw [Search.outcome_bind_eq_error, Search.outcome_lift] at h
    rcases h with hlookup | ⟨found, -, hindex⟩
    · cases hlookup
    · cases found with
      | some path => cases hindex
      | none =>
          cases hindex
          exact Or.inl ⟨_, by simp [Cause.IsOfFolder, Cause.kind], rfl⟩

theorem stop_of_namedEntry {target folder : String} {mayEscalate : Bool}
    (h : Search.outcome place
      (Walk.namedEntry rules place.cwd request target folder mayEscalate) = .error stop) :
    stop.IsOfManifest place request := by
  rw [Walk.outcome_namedEntry] at h
  split at h
  · cases h
  · cases h
    exact Or.inl ⟨_, by simp [Cause.IsOfFolder, Cause.kind], rfl⟩

/-- **Why a library is not located**: its folder cannot be told, or what comes after fails, or a
manifest has an excess. -/
theorem stop_of_locate {name start : String} (hcwd : Path.isAbsolute place.cwd = true)
    (hdisk : place.disk.IsLawful)
    (h : Search.outcome place (locate rules place.cwd request name start) = .error stop) :
    Search.outcome place (directory place.cwd request name start) = .error stop ∨
      stop.IsOfManifest place request := by
  rw [locate, Search.outcome_bind_eq_error] at h
  rcases h with hfolder | ⟨folder, hfolder, h⟩
  · exact Or.inl hfolder
  right
  rw [Search.outcome_bind_eq_error, Search.outcome_lift] at h
  rcases h with hlookup | ⟨found, -, h⟩
  · cases hlookup
  cases found with
  | some path => cases h
  | none =>
      rw [Search.outcome_bind_eq_error] at h
      rcases h with hwalk | ⟨walk, hwalk, hfile⟩
      · exact stop_of_namedEntry hwalk
      · obtain ⟨habsolute, -⟩ := isAbsolute_of_directory hcwd hfolder
        obtain ⟨-, hmanifest⟩ := walk_of_namedEntry hcwd habsolute hwalk
        obtain ⟨-, hvisited⟩ := Walk.visited_of_namedEntry hwalk
        refine stop_of_fileOfWalk (fun manifest hfound => ?_) hfile
        exact ⟨(hmanifest manifest hfound).2, Walk.isImpossible_of_visited hdisk hvisited hfound⟩

/-- **A manifest with an excess stops the search** that comes to it. -/
theorem locate_of_hasExcess {name start folder manifest : String} {walk : Walk}
    {excess : Json.Excess}
    (hfolder : Search.outcome place (directory place.cwd request name start) = .ok folder)
    (hscript : (script rules name folder).outcome place = none)
    (hwalk : Search.outcome place (Walk.namedEntry rules place.cwd request Layout.manifest folder
      (rules.fallback == .escalate)) = .ok walk)
    (hfound : walk.found = some manifest) (hexcess : place.HasExcess manifest excess) :
    Search.outcome place (locate rules place.cwd request name start) =
      .error (.excessive excess) := by
  have hfile : Search.outcome place (fileOfWalk rules request name walk) =
      .error (.excessive excess) := by
    rw [fileOfWalk, hfound]
    dsimp only
    rw [entryFile, Search.outcome_bind, Manifest.entryPath_of_hasExcess hexcess]
    rfl
  rw [locate, Search.outcome_bind, hfolder, Except.bind, Search.outcome_bind, Search.outcome_lift,
    hscript, Except.bind, Search.outcome_bind, hwalk, Except.bind, hfile]

/-- The folder of a library that cannot be told makes the request fail. -/
theorem cause_of_directory {name start : String}
    (h : Search.outcome place (directory place.cwd request name start) = .error stop) :
    (NamesNone name ∧ stop = .failed ⟨request, .noLibrary⟩) ∨
      (¬ NamesNone name ∧ Layout.dependencyRoot ∉ Path.segments name ∧
        (Walk.nearest place.cwd Layout.dependencyRoot start).outcome place = none ∧
        stop = .failed ⟨request, .noDependencyRoot⟩) := by
  rcases directory_cases place request name start with ⟨hnone, hcase⟩ | ⟨-, -, hcase⟩ |
    ⟨-, -, root, -, hcase⟩ | ⟨hnames, hsegments, hnearest, hcase⟩
  · rw [hcase] at h
    cases h
    exact Or.inl ⟨hnone, rfl⟩
  · rw [hcase] at h
    cases h
  · rw [hcase] at h
    cases h
  · rw [hcase] at h
    cases h
    exact Or.inr ⟨hnames, hsegments, hnearest, rfl⟩

end Library

/-! ## Requests -/

/-- Why a request may not be met: it fails, or a manifest has an excess. -/
def Stop.IsOf (place : Place) (request : Request) (stop : Stop) : Prop :=
  (∃ cause, stop = .failed ⟨request, cause⟩) ∨
    ∃ manifest excess, place.HasExcess manifest excess ∧ stop = .excessive excess

theorem Stop.IsOfManifest.isOf {place : Place} {request : Request} {stop : Stop}
    (h : stop.IsOfManifest place request) : stop.IsOf place request := by
  rcases h with ⟨cause, -, rfl⟩ | hexcess
  · exact Or.inl ⟨cause, rfl⟩
  · exact Or.inr hexcess

namespace Rules

variable {rules : Rules} {place : Place} {request : Request} {stop : Stop}

theorem stop_of_attempt {start : String} (hcwd : Path.isAbsolute place.cwd = true)
    (hdisk : place.disk.IsLawful) (h : rules.attempt place request start = .error stop) :
    stop.IsOf place request := by
  rcases Library.stop_of_locate hcwd hdisk h with hfolder | hmanifest
  · rcases Library.cause_of_directory hfolder with ⟨-, rfl⟩ | ⟨-, -, -, rfl⟩
    · exact Or.inl ⟨_, rfl⟩
    · exact Or.inl ⟨_, rfl⟩
  · exact hmanifest.isOf

theorem stop_of_resolveLibrary (hcwd : Path.isAbsolute place.cwd = true)
    (hdisk : place.disk.IsLawful)
    (h : Search.outcome place (rules.resolveLibrary place.cwd request) = .error stop) :
    stop.IsOf place request := by
  rw [outcome_resolveLibrary] at h
  split at h
  · next failure hfirst =>
      -- the first failure is about the request, and it is what a second one turns into
      have hfailed := stop_of_attempt hcwd hdisk hfirst
      split at h
      · cases hsecond : rules.attempt place request (Path.parent request.directory) with
        | ok path =>
            rw [hsecond] at h
            cases h
        | error other =>
            rw [hsecond] at h
            cases other with
            | failed second =>
                cases h
                exact hfailed
            | excessive excess =>
                cases h
                exact stop_of_attempt hcwd hdisk hsecond
            | impossible second =>
                cases h
                exact stop_of_attempt hcwd hdisk hsecond
      · cases h
        exact hfailed
  · exact stop_of_attempt hcwd hdisk h

/-- **Why a request is not met.** -/
theorem stop_of_resolve (hcwd : Path.isAbsolute place.cwd = true) (hdisk : place.disk.IsLawful)
    (h : Search.outcome place (rules.resolve place.cwd request) = .error stop) :
    stop.IsOf place request := by
  unfold resolve at h
  cases hkey : rules.cacheKey place.cwd request with
  | builtin specifier =>
      rw [hkey] at h
      cases h
  | library specifier directory =>
      rw [hkey] at h
      exact stop_of_resolveLibrary hcwd hdisk h
  | file target =>
      rw [hkey] at h
      have hfile : Search.outcome place (rules.resolveFile request target) = .error stop := h
      rw [outcome_resolveFile] at hfile
      split at hfile
      · cases hfile
      · cases hfile
        exact Or.inl ⟨_, rfl⟩

end Rules

end ModuleResolution
