import ModuleResolution.Proofs.Resolve.Retry

/-! # Excluded extensions are never matched

Whichever way a path is found, its extension was tested as a whole before it was given back: a
candidate with the extension it ended up with, a path as it stands, and the entry of a manifest.
So each search gives admitted paths only, from the candidates of a stem (`admits_of_firstMatch`)
up to the requests that name no builtin (`admits_of_resolve`). A builtin is given back untested.
-/

set_option autoImplicit false

namespace ModuleResolution

namespace Rules

/-- The extension of a path is not excluded. -/
def Admits (rules : Rules) (path : String) : Prop :=
  rules.isExcluded (Path.extension path) = false

variable {rules : Rules} {place : Place} {path : String}

/-! ## Probing -/

theorem admits_of_mem_candidates {stem : String} (h : path ∈ rules.candidates stem) :
    rules.Admits path :=
  (mem_candidates.mp h).2

theorem admits_of_mem_probed {target : String} (h : path ∈ rules.probed target) :
    rules.Admits path := by
  rcases mem_probed h with ⟨rfl, hadmitted⟩ | ⟨stem, _, hcandidate⟩
  · exact hadmitted
  · exact admits_of_mem_candidates hcandidate

theorem admits_of_firstMatch {stem : String}
    (h : (rules.firstMatch stem).outcome place = some path) : rules.Admits path := by
  rw [outcome_firstMatch] at h
  exact admits_of_mem_candidates (List.mem_of_find?_eq_some h)

theorem admits_of_probeFile {target : String}
    (h : (rules.probeFile target).outcome place = some path) : rules.Admits path := by
  rw [outcome_probeFile] at h
  exact admits_of_mem_probed (List.mem_of_find?_eq_some h)

theorem admits_of_resolveFile {request : Request} {target : String}
    (h : Search.outcome place (rules.resolveFile request target) = .ok path) :
    rules.Admits path :=
  admits_of_mem_probed (List.mem_of_find?_eq_some (resolveFile_eq_ok.mp h))

end Rules

/-! ## Libraries -/

namespace Library

variable {rules : Rules} {place : Place} {request : Request} {path : String}

theorem admits_of_script {name folder : String}
    (h : (script rules name folder).outcome place = some path) : rules.Admits path := by
  rw [script, Lookup.outcome_orElse, Option.or_eq_some_iff, Rules.outcome_noting] at h
  rcases h with hscript | ⟨-, hfile⟩
  · exact Rules.admits_of_firstMatch hscript
  · rw [Lookup.outcome] at hfile
    split at hfile
    · exact Rules.admits_of_probeFile hfile
    · cases hfile

theorem admits_of_entryMatch {entry folder : String}
    (h : (entryMatch rules entry folder).outcome place = some path) : rules.Admits path := by
  rw [entryMatch, Lookup.outcome_orElse, Lookup.outcome_orElse, Option.or_eq_some_iff,
    Option.or_eq_some_iff] at h
  rcases h with hentry | ⟨-, hindex | ⟨-, hindex⟩⟩
  · exact Rules.admits_of_firstMatch hentry
  · exact Rules.admits_of_firstMatch hindex
  · exact Rules.admits_of_firstMatch hindex

/-- An entry that is taken as it stands has a recognized extension. -/
theorem admits_of_entryFile {manifest folder : String}
    (h : Search.outcome place (entryFile rules request manifest folder) = .ok path) :
    rules.Admits path := by
  rw [entryFile, Search.outcome_bind_eq_ok] at h
  obtain ⟨entry, -, hentry⟩ := h
  split at hentry
  · next hrecognized =>
      cases hentry
      unfold Rules.isRecognized at hrecognized
      rw [Bool.and_eq_true, Bool.not_eq_true'] at hrecognized
      exact hrecognized.2
  · rw [Search.outcome_bind_eq_ok, Search.outcome_lift] at hentry
    obtain ⟨found, hfound, hpath⟩ := hentry
    cases found with
    | none => cases hpath
    | some found =>
        cases hpath
        exact admits_of_entryMatch (Except.ok.inj hfound)

theorem admits_of_fileOfWalk {name : String} {walk : Walk}
    (h : Search.outcome place (fileOfWalk rules request name walk) = .ok path) :
    rules.Admits path := by
  unfold fileOfWalk at h
  split at h
  · exact admits_of_entryFile h
  · rw [Search.outcome_bind_eq_ok] at h
    obtain ⟨found, hfound, hpath⟩ := h
    rw [Search.outcome_lift, Rules.outcome_noting] at hfound
    cases found with
    | none => cases hpath
    | some found =>
        cases hpath
        exact Rules.admits_of_firstMatch (Except.ok.inj hfound)

theorem admits_of_locate {name start : String}
    (h : Search.outcome place (locate rules place.cwd request name start) = .ok path) :
    rules.Admits path := by
  rw [locate, Search.outcome_bind_eq_ok] at h
  obtain ⟨folder, -, h⟩ := h
  rw [Search.outcome_bind_eq_ok, Search.outcome_lift] at h
  obtain ⟨found, hfound, hpath⟩ := h
  cases found with
  | none =>
      rw [Search.outcome_bind_eq_ok] at hpath
      obtain ⟨walk, -, hwalk⟩ := hpath
      exact admits_of_fileOfWalk hwalk
  | some found =>
      cases hpath
      exact admits_of_script (Except.ok.inj hfound)

end Library

/-! ## Requests -/

/-- **A path that is given for anything but a builtin is admitted.** -/
theorem Rules.admits_of_resolve {rules : Rules} {place : Place} {request : Request}
    {path : String} (hkind : (rules.cacheKey place.cwd request).kind ≠ .builtin)
    (h : Search.outcome place (rules.resolve place.cwd request) = .ok path) :
    rules.Admits path := by
  unfold resolve at h
  cases hkey : rules.cacheKey place.cwd request with
  | builtin specifier =>
      rw [hkey] at hkind
      exact absurd rfl hkind
  | library specifier directory =>
      rw [hkey] at h
      obtain ⟨start, hattempt⟩ := attempt_of_resolveLibrary h
      exact Library.admits_of_locate hattempt
  | file target =>
      rw [hkey] at h
      exact admits_of_resolveFile h

end ModuleResolution
