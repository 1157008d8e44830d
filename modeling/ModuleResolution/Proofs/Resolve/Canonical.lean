import ModuleResolution.Proofs.Disk.Location
import ModuleResolution.Proofs.Resolve.Exclusion
import ModuleResolution.Proofs.Resolve.Locate

/-! # Given paths stand for themselves

A path that is given for anything but a builtin has an origin and is admitted (`origin_of_resolve`,
`admits_of_resolve`). Being absolute it is a path specifier, and stands for its normal form from
everywhere. When it leads to a file, so does the normal form, which is the first path that is
tried; so nothing is put behind it or cut off from it when it is resolved again
(`resolve_of_admits`).
-/

set_option autoImplicit false

namespace ModuleResolution

/-- An absolute path does not name a library. -/
theorem Specifier.namesLibrary_of_isAbsolute {path : String} (h : Path.isAbsolute path = true) :
    namesLibrary path = false := by
  unfold Path.isAbsolute at h
  unfold namesLibrary
  cases hchars : path.toList with
  | nil => simp [hchars] at h
  | cons c rest =>
      obtain rfl : c = '/' := by simpa [hchars] using h
      rfl

namespace Rules

variable {rules : Rules} {place : Place} {request : Request} {path : String}

/-- **A path that is given for anything but a builtin** has an origin. -/
theorem origin_of_resolve (hcwd : Path.isAbsolute place.cwd = true)
    (hkind : (rules.cacheKey place.cwd request).kind ≠ .builtin)
    (h : Search.outcome place (rules.resolve place.cwd request) = .ok path) :
    rules.Origin place path := by
  unfold resolve at h
  cases hkey : rules.cacheKey place.cwd request with
  | builtin specifier =>
      rw [hkey] at hkind
      exact absurd rfl hkind
  | library specifier directory =>
      rw [hkey] at h
      obtain ⟨start, hattempt⟩ := attempt_of_resolveLibrary h
      exact Library.origin_of_locate hcwd hattempt
  | file target =>
      rw [hkey] at h
      have htarget : Path.absoluteFrom place.cwd request.directory request.specifier = target := by
        unfold cacheKey at hkey
        split at hkey
        · split at hkey <;> cases hkey
        · exact CacheKey.file.inj hkey
      rw [← htarget] at h
      have hfind := resolveFile_eq_ok.mp h
      exact .probe _ (Path.isAbsolute_absoluteFrom hcwd _ _) (Path.normalize_absoluteFrom _ _ _)
        (List.mem_of_find?_eq_some hfind) (by simpa using List.find?_some hfind)

/-- The first path that is tried is the path itself, when it is admitted. -/
theorem find?_probed_of_admits (hadmits : rules.Admits path)
    (hfile : place.kind? path = some .file) :
    (rules.probed path).find? place.isFile = some path := by
  have hfirst : ([path] : List String).find? place.isFile = some path := by
    rw [List.find?_cons_of_pos (by simpa using hfile)]
  rw [probed, if_neg (by simpa [Admits] using hadmits), List.find?_append, hfirst,
    Option.some_or]

/-- **An absolute path of a file resolves to its normal form**, when it is admitted. -/
theorem resolve_of_admits (habsolute : Path.isAbsolute path = true) (hadmits : rules.Admits path)
    (hfile : place.kind? path = some .file) (directory : String) :
    Search.outcome place (rules.resolve place.cwd ⟨path, directory⟩) =
      .ok (Path.normalize path) := by
  have hkey : rules.cacheKey place.cwd ⟨path, directory⟩ = .file (Path.normalize path) := by
    rw [cacheKey, if_neg (by simp [Specifier.namesLibrary_of_isAbsolute habsolute]),
      Path.absoluteFrom_of_isAbsolute habsolute]
  -- the extension is that of the file name, which the normal form keeps
  have hnormal : rules.Admits (Path.normalize path) := by
    unfold Admits Path.extension Path.extensionWith at hadmits ⊢
    rwa [Path.fileName_normalize]
  have hsame : place.kind? (Path.normalize path) = some .file :=
    Disk.kind?_normalize habsolute hfile
  rw [resolve, hkey]
  exact resolveFile_eq_ok.mpr (find?_probed_of_admits hnormal hsame)

end Rules

end ModuleResolution
