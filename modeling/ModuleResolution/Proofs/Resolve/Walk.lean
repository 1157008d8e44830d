import ModuleResolution.Proofs.Disk.Lawful
import ModuleResolution.Proofs.Path.Lineage
import ModuleResolution.Proofs.Resolve.Probe
import ModuleResolution.Resolve.Walk

/-! # What walks come to

A walk upwards is a search in a list, the places of a name in a lineage (`outcome_nearest`). A walk
for the file of a folder is a search in a list as well: it goes from station to station, that is
from the folder itself to the folders that can stand for it, at most two, and ends at the first
that exists (`outcome_seek`). What it finds there is said once, in `visited`. All stations of an
absolute folder are absolute, and a manifest that is found at one is a path of that name, which on
a lawful disk is possible.
-/

set_option autoImplicit false

namespace ModuleResolution.Walk

variable (rules : Rules) (place : Place)

/-! ## Upwards -/

/-- **The nearest** entry of a name is the first of its places that leads anywhere. -/
@[simp] theorem outcome_nearest (name start : String) :
    (nearest place.cwd name start).outcome place =
      (places place.cwd name start).find? fun path => (place.kind? path).isSome :=
  Lookup.outcome_first place _ _

/-- A place of a name is that name in a folder of the lineage. -/
theorem exists_of_mem_places {cwd name start path : String} (hcwd : Path.isAbsolute cwd = true)
    (h : path ∈ places cwd name start) :
    ∃ folder, Path.isAbsolute folder = true ∧ path = Path.join [folder, name] := by
  obtain ⟨folder, hfolder, rfl⟩ := List.mem_map.mp h
  have habsolute := Path.isAbsolute_absoluteFrom hcwd cwd start
  exact ⟨folder, Path.isAbsolute_of_mem_lineage habsolute hfolder, rfl⟩

theorem exists_of_nearest {name start path : String} {place : Place}
    (hcwd : Path.isAbsolute place.cwd = true)
    (h : (nearest place.cwd name start).outcome place = some path) :
    ∃ folder, Path.isAbsolute folder = true ∧ path = Path.join [folder, name] := by
  rw [outcome_nearest] at h
  exact exists_of_mem_places hcwd (List.mem_of_find?_eq_some h)

/-- From an absolute folder the nearest entry is looked for in its own lineage. -/
theorem places_of_isAbsolute {cwd name start : String} (hstart : Path.isAbsolute start = true) :
    places cwd name start =
      (Path.lineage start).map fun folder => Path.join [folder, name] := by
  rw [places, Path.absolute, Path.absoluteFrom_of_isAbsolute hstart, Path.lineage_normalize]

theorem outcome_nearest_of_isAbsolute {name start : String} {place : Place}
    (hstart : Path.isAbsolute start = true) :
    (nearest place.cwd name start).outcome place =
      ((Path.lineage start).find? fun folder =>
        (place.kind? (Path.join [folder, name])).isSome).map
          fun folder => Path.join [folder, name] := by
  rw [outcome_nearest, places_of_isAbsolute hstart, List.find?_map]
  rfl

/-- **What is not found from a folder is not found from its parent.** -/
theorem nearest_parent_eq_none {name start : String} {place : Place}
    (hstart : Path.isAbsolute start = true)
    (h : (nearest place.cwd name start).outcome place = none) :
    (nearest place.cwd name (Path.parent start)).outcome place = none := by
  rw [outcome_nearest, List.find?_eq_none] at h ⊢
  intro path hpath
  apply h path
  rw [places_of_isAbsolute (Path.isAbsolute_parent hstart)] at hpath
  rw [places_of_isAbsolute hstart]
  exact List.map_subset _ (Path.lineage_parent_subset hstart) hpath

/-! ## One visit -/

/-- The first file below a folder that a target stands for, as it is listed. -/
def firstBelow (target folder : String) : Option String :=
  (Listing.paths folder ⟨rules.allowed, rules.excluded⟩ true (place.shapeAt folder)).find?
    fun file => (targetNames rules target).contains (Path.fileName file)

/-- What a visit to a folder finds. -/
def visited (target folder : String) : Option Walk :=
  if (place.kind? (Path.join [folder, target])).isSome then
    some ⟨folder, some (Path.join [folder, target])⟩
  else if (place.kind? folder).isSome then some ⟨folder, firstBelow rules place target folder⟩
  else none

@[simp] theorem outcome_searchBelow (target folder : String) :
    (searchBelow rules target folder).outcome place = firstBelow rules place target folder := by
  rw [searchBelow, Lookup.outcome_bind]
  rfl

theorem outcome_visit (target folder : String) :
    (visit rules target folder).outcome place = visited rules place target folder := by
  rw [visit, Lookup.outcome, visited]
  cases place.kind? (Path.join [folder, target]) with
  | some kind => rfl
  | none =>
      rw [Lookup.outcome]
      cases place.kind? folder with
      | none => rfl
      | some kind =>
          rw [Lookup.outcome_bind, outcome_searchBelow]
          rfl

theorem directory_of_visited {target folder : String} {walk : Walk}
    (h : visited rules place target folder = some walk) : walk.directory = folder := by
  unfold visited at h
  split at h
  · cases h
    rfl
  · split at h
    · cases h
      rfl
    · cases h

/-- The file that a visit finds is the target in the folder, and leads somewhere, or is listed
below the folder, which does. -/
theorem found_of_visited {target folder file : String} {walk : Walk}
    (h : visited rules place target folder = some walk) (hfound : walk.found = some file) :
    (file = Path.join [folder, target] ∧ (place.kind? file).isSome = true) ∨
      ((place.kind? folder).isSome = true ∧ firstBelow rules place target folder = some file) := by
  unfold visited at h
  split at h
  · next hdirect =>
      cases h
      cases hfound
      exact Or.inl ⟨rfl, hdirect⟩
  · split at h
    · next hfolder =>
        cases h
        exact Or.inr ⟨hfolder, hfound⟩
    · cases h

/-! ## From station to station -/

/-- The folders that can stand for a missing one, in order. -/
def detours (start : String) : List String :=
  match Installed.ofPath? place.cwd start with
  | none => []
  | some installed =>
    installed.sidecar?.toList ++ ((nestedRoot place.cwd installed).outcome place).toList

/-- The folders that a walk may visit, in order. -/
def stations (start : String) (mayEscalate : Bool) : List String :=
  start :: if mayEscalate then detours place start else []

theorem outcome_visitInstead (request : Request) (target : String) (mode : Escalation)
    (folder : Option String) :
    (visitInstead rules request target mode folder).outcome place =
      folder.toList.findSome? (visited rules place target) := by
  cases folder with
  | none => rfl
  | some folder =>
      rw [visitInstead, Lookup.outcome, outcome_visit, Option.toList_some, List.findSome?_cons,
        List.findSome?_nil]
      cases visited rules place target folder <;> rfl

theorem outcome_escalate (request : Request) (target start : String) :
    (escalate rules place.cwd request target start).outcome place =
      (detours place start).findSome? (visited rules place target) := by
  unfold escalate detours
  cases Installed.ofPath? place.cwd start with
  | none => rfl
  | some installed =>
      rw [Lookup.outcome_orElse, Lookup.outcome_bind, outcome_visitInstead, outcome_visitInstead,
        List.findSome?_append]

/-- **A walk ends at the first of its stations that exists.** -/
theorem outcome_seek (request : Request) (target start : String) (mayEscalate : Bool) :
    (seek rules place.cwd request target start mayEscalate).outcome place =
      (stations place start mayEscalate).findSome? (visited rules place target) := by
  rw [seek, Lookup.outcome_orElse, outcome_visit, stations, List.findSome?_cons]
  have hrest : (if mayEscalate then escalate rules place.cwd request target start
        else .done none).outcome place
      = (if mayEscalate then detours place start else []).findSome?
          (visited rules place target) := by
    cases mayEscalate with
    | false => rfl
    | true =>
        rw [if_pos rfl, if_pos rfl]
        exact outcome_escalate rules place request target start
  rw [hrest]
  cases visited rules place target start <;> rfl

/-- A walk for the file of a folder, as a search: it fails only when no station exists. -/
theorem outcome_namedEntry (request : Request) (target start : String) (mayEscalate : Bool) :
    Search.outcome place (namedEntry rules place.cwd request target start mayEscalate) =
      match (stations place start mayEscalate).findSome? (visited rules place target) with
      | some walk => .ok walk
      | none => .error (.failed ⟨request, .noAncestor target start⟩) := by
  rw [namedEntry, Search.outcome_bind, Search.outcome_lift, outcome_seek, Except.bind]
  cases (stations place start mayEscalate).findSome? (visited rules place target) <;> rfl

/-- Where a walk ends is one of its stations. -/
theorem visited_of_namedEntry {rules : Rules} {place : Place} {request : Request}
    {target start : String} {mayEscalate : Bool} {walk : Walk}
    (h : Search.outcome place (namedEntry rules place.cwd request target start mayEscalate)
      = .ok walk) :
    walk.directory ∈ stations place start mayEscalate ∧
      visited rules place target walk.directory = some walk := by
  rw [outcome_namedEntry] at h
  cases hfind : (stations place start mayEscalate).findSome? (visited rules place target) with
  | none =>
      rw [hfind] at h
      cases h
  | some found =>
      rw [hfind] at h
      cases h
      obtain ⟨folder, hmem, hvisited⟩ := List.exists_of_findSome?_eq_some hfind
      rw [directory_of_visited rules place hvisited]
      exact ⟨hmem, hvisited⟩

/-! ## Stations are absolute -/

theorem isAbsolute_of_ofPath? {cwd path : String} {installed : Installed}
    (hcwd : Path.isAbsolute cwd = true) (h : Installed.ofPath? cwd path = some installed) :
    Path.isAbsolute installed.root = true := by
  have ha : Path.anchorOf (Path.absolute cwd path) ≠ .relative :=
    (Path.isAbsolute_iff _).mp (Path.isAbsolute_absoluteFrom hcwd cwd path)
  unfold Installed.ofPath? Installed.ofStack? at h
  dsimp only at h
  split at h
  · cases h
  · cases h
  · cases h
    exact Path.isAbsolute_render_of_ne_relative ha _

theorem isAbsolute_of_sidecar? {installed : Installed} {folder : String}
    (hroot : Path.isAbsolute installed.root = true) (h : installed.sidecar? = some folder) :
    Path.isAbsolute folder = true := by
  unfold Installed.sidecar? at h
  split at h
  · cases h
  · cases h
    exact Path.isAbsolute_join hroot _

theorem isAbsolute_of_nestedRoot {place : Place} {installed : Installed} {folder : String}
    (hcwd : Path.isAbsolute place.cwd = true)
    (h : (nestedRoot place.cwd installed).outcome place = some folder) :
    Path.isAbsolute folder = true := by
  unfold nestedRoot at h
  dsimp only at h
  split at h
  · cases h
  · rw [Lookup.outcome_bind, Lookup.outcome_done, Option.map_eq_some_iff] at h
    obtain ⟨root, hnearest, rfl⟩ := h
    obtain ⟨above, habove, rfl⟩ := exists_of_nearest hcwd hnearest
    exact Path.isAbsolute_join (Path.isAbsolute_join habove _) _

theorem isAbsolute_of_mem_detours {start folder : String} {place : Place}
    (hcwd : Path.isAbsolute place.cwd = true) (h : folder ∈ detours place start) :
    Path.isAbsolute folder = true := by
  unfold detours at h
  split at h
  · simp at h
  · next installed hinstalled =>
      rcases List.mem_append.mp h with hsidecar | hnested
      · exact isAbsolute_of_sidecar? (isAbsolute_of_ofPath? hcwd hinstalled)
          (Option.mem_toList.mp hsidecar)
      · exact isAbsolute_of_nestedRoot hcwd (Option.mem_toList.mp hnested)

/-- **Every station of a walk from an absolute folder is absolute.** -/
theorem isAbsolute_of_mem_stations {start folder : String} {mayEscalate : Bool} {place : Place}
    (hcwd : Path.isAbsolute place.cwd = true) (hstart : Path.isAbsolute start = true)
    (h : folder ∈ stations place start mayEscalate) : Path.isAbsolute folder = true := by
  rcases List.mem_cons.mp h with rfl | h
  · exact hstart
  · split at h
    · exact isAbsolute_of_mem_detours hcwd h
    · simp at h

/-! ## Manifests that are found -/

theorem isLegible_manifest : Path.IsLegible Layout.manifest ∧ Layout.manifest ≠ ".." := by
  decide +kernel

/-- The target of a walk for a manifest has an extension, so it stands for itself. -/
theorem targetNames_manifest (rules : Rules) :
    targetNames rules Layout.manifest = [Layout.manifest] := by
  rw [targetNames, if_pos (by decide +kernel)]

/-- **A manifest that a visit to an absolute folder finds** is an absolute path of its name. -/
theorem manifest_of_visited {rules : Rules} {place : Place} {folder manifest : String} {walk : Walk}
    (hfolder : Path.isAbsolute folder = true)
    (h : visited rules place Layout.manifest folder = some walk)
    (hfound : walk.found = some manifest) :
    Path.isAbsolute manifest = true ∧ Path.fileName manifest = Layout.manifest := by
  rcases found_of_visited rules place h hfound with ⟨rfl, -⟩ | ⟨-, hbelow⟩
  · obtain ⟨hlegible, hdots⟩ := isLegible_manifest
    exact ⟨Path.isAbsolute_join hfolder _, Path.fileName_join hfolder hlegible hdots⟩
  · unfold firstBelow at hbelow
    have hname := List.find?_some hbelow
    rw [targetNames_manifest] at hname
    obtain ⟨location, -, rfl⟩ := List.mem_map.mp (List.mem_of_find?_eq_some hbelow)
    exact ⟨Path.isAbsolute_foldl_append hfolder location, by simpa using hname⟩

/-- On a lawful disk a file that a visit finds has a possible path. -/
theorem isImpossible_of_visited {rules : Rules} {place : Place} {target folder file : String}
    {walk : Walk} (hdisk : place.disk.IsLawful)
    (h : visited rules place target folder = some walk) (hfound : walk.found = some file) :
    Disk.isImpossible file = false := by
  have hpossible : ∀ {path : String}, (place.kind? path).isSome = true →
      Disk.isImpossible path = false := by
    intro path hpath
    obtain ⟨kind, hkind⟩ := Option.isSome_iff_exists.mp hpath
    exact Disk.isImpossible_of_kind? hkind
  rcases found_of_visited rules place h hfound with ⟨-, hdirect⟩ | ⟨hfolder, hbelow⟩
  · exact hpossible hdirect
  · exact Listing.isImpossible_of_mem_paths hdisk (hpossible hfolder)
      (List.mem_of_find?_eq_some hbelow)

end ModuleResolution.Walk
