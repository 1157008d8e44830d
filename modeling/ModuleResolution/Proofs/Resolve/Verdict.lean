import ModuleResolution.Proofs.Disk.Location
import ModuleResolution.Proofs.Session.Libraries

/-! # What locating a library comes to

Either a library is located, or the request fails in one of six ways, or a manifest exceeds what a
reader takes. Which of these it is depends on the disk only: `Library.Finds` lists the ways to a
file, `Library.Fails` the kinds of failure and `Library.Exceeds` the manifests in excess, each with
all that is asked of the disk for it. `Library.locate_verdict` says that these are exactly the
outcomes. It is put together from three computations, one for each list, and from the fact that
one of the lists always applies (`Library.verdict_cases`).

A folder whose manifest is there is there itself (`Disk.kind?_of_join`), so a walk ends at the first
station that exists, whether or not the manifest is in it (`Walk.findSome?_visited`).
-/

set_option autoImplicit false

namespace ModuleResolution

/-! ## Where a walk ends -/

namespace Walk

variable {rules : Rules} {place : Place} {target folder : String}

/-- The file of a folder that a target stands for: the target in the folder, whatever it is, or
else the first such file below. -/
def fileOf (rules : Rules) (place : Place) (target folder : String) : Option String :=
  if (place.kind? (Path.join [folder, target])).isSome then some (Path.join [folder, target])
  else firstBelow rules place target folder

/-- A visit to a folder that exists ends there, whether or not the target is in it. -/
theorem visited_eq (hfolder : Path.isAbsolute folder = true)
    (hnormal : Path.normalize folder = folder) (htarget : Path.IsLegible target)
    (hdots : target ≠ "..") :
    visited rules place target folder =
      if (place.kind? folder).isSome then some ⟨folder, fileOf rules place target folder⟩
      else none := by
  unfold visited fileOf
  by_cases hdirect : (place.kind? (Path.join [folder, target])).isSome = true
  · obtain ⟨kind, hkind⟩ := Option.isSome_iff_exists.mp hdirect
    have hexists : place.kind? folder = some .folder :=
      Disk.kind?_of_join hfolder hnormal htarget hdots hkind
    rw [if_pos hdirect, if_pos hdirect, hexists]
    rfl
  · rw [if_neg hdirect, if_neg hdirect]

/-- The folders that can stand for a missing one are written in normal form. -/
theorem normalize_of_mem_detours {start : String} (h : folder ∈ detours place start) :
    Path.normalize folder = folder := by
  unfold detours at h
  split at h
  · simp at h
  · next installed hinstalled =>
      rcases List.mem_append.mp h with hsidecar | hnested
      · have hfolder : installed.sidecar? = some folder := Option.mem_toList.mp hsidecar
        unfold Installed.sidecar? at hfolder
        split at hfolder
        · cases hfolder
        · cases hfolder
          exact Path.normalize_normalize _
      · have hfolder : (nestedRoot place.cwd installed).outcome place = some folder :=
          Option.mem_toList.mp hnested
        unfold nestedRoot at hfolder
        dsimp only at hfolder
        split at hfolder
        · cases hfolder
        · rw [Lookup.outcome_bind, Lookup.outcome_done, Option.map_eq_some_iff] at hfolder
          obtain ⟨root, -, rfl⟩ := hfolder
          exact Path.normalize_normalize _

theorem normalize_of_mem_stations {start : String} {mayEscalate : Bool}
    (hstart : Path.normalize start = start) (h : folder ∈ stations place start mayEscalate) :
    Path.normalize folder = folder := by
  rcases List.mem_cons.mp h with rfl | h
  · exact hstart
  · split at h
    · exact normalize_of_mem_detours h
    · simp at h

/-- The first station of a walk that exists. -/
def firstStation (place : Place) (start : String) (mayEscalate : Bool) : Option String :=
  (stations place start mayEscalate).find? fun folder => (place.kind? folder).isSome

/-- **A walk ends at the first station that exists**, with the file of that folder. -/
theorem findSome?_visited {start : String} {mayEscalate : Bool}
    (hcwd : Path.isAbsolute place.cwd = true) (hstart : Path.isAbsolute start = true)
    (hnormal : Path.normalize start = start) (htarget : Path.IsLegible target)
    (hdots : target ≠ "..") :
    (stations place start mayEscalate).findSome? (visited rules place target) =
      (firstStation place start mayEscalate).map fun folder =>
        ⟨folder, fileOf rules place target folder⟩ := by
  have hvisit : ∀ folder ∈ stations place start mayEscalate, visited rules place target folder =
      if (place.kind? folder).isSome then some ⟨folder, fileOf rules place target folder⟩
      else none := fun folder hmem =>
    visited_eq (isAbsolute_of_mem_stations hcwd hstart hmem)
      (normalize_of_mem_stations hnormal hmem) htarget hdots
  unfold firstStation
  generalize stations place start mayEscalate = folders at hvisit ⊢
  induction folders with
  | nil => rfl
  | cons folder rest ih =>
      have hrest := ih fun other hother => hvisit other (List.mem_cons_of_mem _ hother)
      rw [List.findSome?_cons, List.find?_cons, hvisit folder List.mem_cons_self]
      by_cases hexists : (place.kind? folder).isSome = true
      · rw [if_pos hexists, hexists]
        rfl
      · rw [if_neg hexists, hrest, eq_false_of_ne_true hexists]

end Walk

/-! ## The outcomes -/

namespace Library

/-- The folder that a library is expected in: the one that its name spells out when that leads
through a dependency root, and else the one of that name in the nearest dependency root. -/
inductive IsExpected (place : Place) (name start : String) : String → Prop
  | spelled (hnames : ¬ NamesNone name) (hroot : Layout.dependencyRoot ∈ Path.segments name) :
      IsExpected place name start (Path.absoluteFrom place.cwd start name)
  | hoisted {above : String} (hnames : ¬ NamesNone name)
      (hroot : Layout.dependencyRoot ∉ Path.segments name)
      (hnearest : (Path.lineage start).find? (fun folder =>
        (place.kind? (Path.join [folder, Layout.dependencyRoot])).isSome) = some above) :
      IsExpected place name start (Path.join [Path.join [above, Layout.dependencyRoot], name])

/-- The folder of a library is searched for a manifest: its path leads to no file, neither as a
stem nor, when it is a file itself, by a probe. -/
structure IsSearched (rules : Rules) (place : Place) (name start folder : String) : Prop where
  expected : IsExpected place name start folder
  noMatch : (rules.firstMatch folder).outcome place = none
  noFile : place.kind? folder = some .file → (rules.probeFile folder).outcome place = none

/-- The search for a manifest ends in a folder, the first that exists of the folder of the library
and, when the rules allow it, those that can stand for it. -/
def EndsIn (rules : Rules) (place : Place) (name start ending : String) : Prop :=
  ∃ folder, IsSearched rules place name start folder ∧
    Walk.firstStation place folder (rules.fallback == .escalate) = some ending

/-- The search for a manifest ends in a folder with one: its own, or the first one below. -/
def EndsAt (rules : Rules) (place : Place) (name start ending manifest : String) : Prop :=
  EndsIn rules place name start ending ∧
    Walk.fileOf rules place Layout.manifest ending = some manifest

/-- The path of the entry that a manifest with such fields names. -/
def namedBy (rules : Rules) (manifest : String) (entries : Mapping) : String :=
  Path.join [Path.parent manifest, Manifest.entry rules entries]

/-- The five ways to the file of a library. -/
inductive Finds (rules : Rules) (place : Place) (name start : String) : String → Prop
  | script {folder path : String} (hfolder : IsExpected place name start folder)
      (hpath : (rules.firstMatch folder).outcome place = some path) :
      Finds rules place name start path
  | probe {folder path : String} (hfolder : IsExpected place name start folder)
      (hscript : (rules.firstMatch folder).outcome place = none)
      (hfile : place.kind? folder = some .file)
      (hpath : (rules.probeFile folder).outcome place = some path) :
      Finds rules place name start path
  | index {ending path : String} (hends : EndsIn rules place name start ending)
      (hnone : Walk.fileOf rules place Layout.manifest ending = none)
      (hpath : (rules.indexMatch ending).outcome place = some path) :
      Finds rules place name start path
  | entry {ending manifest : String} {entries : Mapping}
      (hends : EndsAt rules place name start ending manifest)
      (hholds : place.HasManifest manifest entries)
      (hfull : rules.isRecognized (Path.extension (namedBy rules manifest entries)) = true) :
      Finds rules place name start (namedBy rules manifest entries)
  | loose {ending manifest path : String} {entries : Mapping}
      (hends : EndsAt rules place name start ending manifest)
      (hholds : place.HasManifest manifest entries)
      (hloose : rules.isRecognized (Path.extension (namedBy rules manifest entries)) = false)
      (hpath : (entryMatch rules (namedBy rules manifest entries) ending).outcome place =
        some path) :
      Finds rules place name start path

/-- The six ways to fail. -/
inductive Fails (rules : Rules) (place : Place) (name start : String) : FailureKind → Prop
  | noLibrary (hnames : NamesNone name) : Fails rules place name start .fileNotFound
  | noDependencyRoot (hnames : ¬ NamesNone name)
      (hroot : Layout.dependencyRoot ∉ Path.segments name)
      (hnone : ∀ folder ∈ Path.lineage start,
        place.kind? (Path.join [folder, Layout.dependencyRoot]) = none) :
      Fails rules place name start .dependencyRootNotFound
  | noAncestor {folder : String} (hsearched : IsSearched rules place name start folder)
      (hnone : ∀ station ∈ Walk.stations place folder (rules.fallback == .escalate),
        place.kind? station = none) :
      Fails rules place name start .invalidAncestorPath
  | noManifest {ending : String} (hends : EndsIn rules place name start ending)
      (hnone : Walk.fileOf rules place Layout.manifest ending = none)
      (hindex : (rules.indexMatch ending).outcome place = none) :
      Fails rules place name start .packageManifestNotFound
  | badManifest {ending manifest : String} (hends : EndsAt rules place name start ending manifest)
      (hbad : ¬ ∃ entries, place.HasManifest manifest entries)
      (hfits : ¬ ∃ excess, place.HasExcess manifest excess) :
      Fails rules place name start .invalidPackageManifest
  | noEntry {ending manifest : String} {entries : Mapping}
      (hends : EndsAt rules place name start ending manifest)
      (hholds : place.HasManifest manifest entries)
      (hloose : rules.isRecognized (Path.extension (namedBy rules manifest entries)) = false)
      (hnone : (entryMatch rules (namedBy rules manifest entries) ending).outcome place = none) :
      Fails rules place name start .packageEntryNotFound

/-- The search comes to a manifest that exceeds what a reader takes. -/
def Exceeds (rules : Rules) (place : Place) (name start : String) (excess : Json.Excess) : Prop :=
  ∃ ending manifest, EndsAt rules place name start ending manifest ∧
    place.HasExcess manifest excess

variable {rules : Rules} {place : Place} {request : Request} {name start : String}

/-! ### What each list comes to -/

/-- A library is looked for in the folder that it is expected in. -/
theorem directory_of_isExpected {folder : String} (hstart : Path.isAbsolute start = true)
    (h : IsExpected place name start folder) :
    Search.outcome place (directory place.cwd request name start) = .ok folder := by
  cases h with
  | spelled hnames hroot =>
      rcases directory_cases place request name start with ⟨hnone, -⟩ | ⟨-, -, hcase⟩ |
        ⟨-, hunrooted, -⟩ | ⟨-, hunrooted, -⟩
      · exact absurd hnone hnames
      · exact hcase
      · exact absurd hroot hunrooted
      · exact absurd hroot hunrooted
  | @hoisted above hnames hroot hfound =>
      have hnearest : (Walk.nearest place.cwd Layout.dependencyRoot start).outcome place =
          some (Path.join [above, Layout.dependencyRoot]) := by
        rw [Walk.outcome_nearest_of_isAbsolute hstart, hfound]
        rfl
      rcases directory_cases place request name start with ⟨hnone, -⟩ | ⟨-, hrooted, -⟩ |
        ⟨-, -, root, hsome, hcase⟩ | ⟨-, -, hnone, -⟩
      · exact absurd hnone hnames
      · exact absurd hrooted hroot
      · rw [hnearest] at hsome
        cases hsome
        exact hcase
      · rw [hnearest] at hnone
        cases hnone

theorem outcome_script (folder : String) :
    (script rules name folder).outcome place =
      ((rules.firstMatch folder).outcome place).or
        (if place.kind? folder = some .file then (rules.probeFile folder).outcome place
          else none) := by
  rw [script, Lookup.outcome_orElse, Rules.outcome_noting, Lookup.outcome]
  congr 1
  split <;> rfl

/-- A script, or the file that a specifier leads to, is the file of the library. -/
theorem locate_of_script {folder path : String} (hstart : Path.isAbsolute start = true)
    (hfolder : IsExpected place name start folder)
    (hpath : (script rules name folder).outcome place = some path) :
    Search.outcome place (locate rules place.cwd request name start) = .ok path := by
  rw [outcome_locate, directory_of_isExpected hstart hfolder, Except.bind, hpath]

/-- From a folder that is searched, locating the library is a walk for its manifest. -/
theorem locate_of_isSearched {folder : String} (hcwd : Path.isAbsolute place.cwd = true)
    (hstart : Path.isAbsolute start = true) (h : IsSearched rules place name start folder) :
    Search.outcome place (locate rules place.cwd request name start) =
      match Walk.firstStation place folder (rules.fallback == .escalate) with
      | some ending => Search.outcome place (fileOfWalk rules request name
          ⟨ending, Walk.fileOf rules place Layout.manifest ending⟩)
      | none => .error (.failed ⟨request, .noAncestor Layout.manifest folder⟩) := by
  have hdirectory : Search.outcome place (directory place.cwd request name start) = .ok folder :=
    directory_of_isExpected hstart h.expected
  obtain ⟨habsolute, hnormal⟩ := isAbsolute_of_directory hcwd hdirectory
  have hscript : (script rules name folder).outcome place = none := by
    rw [outcome_script, h.noMatch, Option.none_or]
    split
    · next hfile => exact h.noFile hfile
    · rfl
  obtain ⟨hlegible, hdots⟩ := Walk.isLegible_manifest
  rw [outcome_locate, hdirectory, Except.bind, hscript, Walk.outcome_namedEntry,
    Walk.findSome?_visited hcwd habsolute hnormal hlegible hdots]
  cases Walk.firstStation place folder (rules.fallback == .escalate) with
  | none => rfl
  | some ending => rfl

theorem locate_of_endsIn {ending : String} (hcwd : Path.isAbsolute place.cwd = true)
    (hstart : Path.isAbsolute start = true) (h : EndsIn rules place name start ending) :
    Search.outcome place (locate rules place.cwd request name start) =
      Search.outcome place (fileOfWalk rules request name
        ⟨ending, Walk.fileOf rules place Layout.manifest ending⟩) := by
  obtain ⟨folder, hsearched, hstation⟩ := h
  rw [locate_of_isSearched hcwd hstart hsearched, hstation]

theorem locate_of_endsAt {ending manifest : String} (hcwd : Path.isAbsolute place.cwd = true)
    (hstart : Path.isAbsolute start = true)
    (h : EndsAt rules place name start ending manifest) :
    Search.outcome place (locate rules place.cwd request name start) =
      Search.outcome place (entryFile rules request manifest ending) := by
  obtain ⟨hends, hmanifest⟩ := h
  rw [locate_of_endsIn hcwd hstart hends, hmanifest]
  rfl

/-- A folder without manifest stands for its index file. -/
theorem locate_of_index {ending : String} (hcwd : Path.isAbsolute place.cwd = true)
    (hstart : Path.isAbsolute start = true) (h : EndsIn rules place name start ending)
    (hnone : Walk.fileOf rules place Layout.manifest ending = none) :
    Search.outcome place (locate rules place.cwd request name start) =
      match (rules.indexMatch ending).outcome place with
      | some path => .ok path
      | none => .error (.failed ⟨request, .noManifest ending⟩) := by
  rw [locate_of_endsIn hcwd hstart h, fileOfWalk, hnone]
  dsimp only
  rw [Search.outcome_bind, Search.outcome_lift, Rules.outcome_noting, Except.bind]
  cases (rules.indexMatch ending).outcome place with
  | none => rfl
  | some path => rfl

/-- A manifest that can be read stands for its entry, or for what its entry stands for. -/
theorem outcome_entryFile {manifest : String} {entries : Mapping}
    (hholds : place.HasManifest manifest entries) (folder : String) :
    let entry := namedBy rules manifest entries
    Search.outcome place (entryFile rules request manifest folder) =
      if rules.isRecognized (Path.extension entry) then .ok entry
      else
        match (entryMatch rules entry folder).outcome place with
        | some path => .ok path
        | none => .error (.failed ⟨request, .noEntry entry manifest⟩) := by
  intro entry
  have hentry : Search.outcome place (Manifest.entryPath rules request manifest) = .ok entry := by
    rw [Manifest.outcome_entryPath, Manifest.load_eq_ok.mpr hholds.parsed]
    rfl
  rw [entryFile, Search.outcome_bind, hentry, Except.bind]
  split
  · rfl
  · rw [Search.outcome_bind, Search.outcome_lift, Except.bind]
    cases (entryMatch rules entry folder).outcome place with
    | none => rfl
    | some path => rfl

theorem locate_of_hasManifest {ending manifest : String} {entries : Mapping}
    (hcwd : Path.isAbsolute place.cwd = true) (hstart : Path.isAbsolute start = true)
    (h : EndsAt rules place name start ending manifest)
    (hholds : place.HasManifest manifest entries) :
    let entry := namedBy rules manifest entries
    Search.outcome place (locate rules place.cwd request name start) =
      if rules.isRecognized (Path.extension entry) then .ok entry
      else
        match (entryMatch rules entry ending).outcome place with
        | some path => .ok path
        | none => .error (.failed ⟨request, .noEntry entry manifest⟩) :=
  (locate_of_endsAt hcwd hstart h).trans (outcome_entryFile hholds ending)

/-- A manifest in which a search ends has the name of one, and a path that a disk can have. -/
theorem manifest_of_endsAt {ending manifest : String} (hcwd : Path.isAbsolute place.cwd = true)
    (hdisk : place.disk.IsLawful) (hstart : Path.isAbsolute start = true)
    (h : EndsAt rules place name start ending manifest) :
    Path.fileName manifest = Layout.manifest ∧ Disk.isImpossible manifest = false := by
  obtain ⟨⟨folder, hsearched, hstation⟩, hmanifest⟩ := h
  have hdirectory : Search.outcome place (directory place.cwd ⟨name, start⟩ name start) =
      .ok folder := directory_of_isExpected hstart hsearched.expected
  obtain ⟨habsolute, hnormal⟩ := isAbsolute_of_directory hcwd hdirectory
  have hmem : ending ∈ Walk.stations place folder (rules.fallback == .escalate) :=
    List.mem_of_find?_eq_some hstation
  have hending : Path.isAbsolute ending = true :=
    Walk.isAbsolute_of_mem_stations hcwd habsolute hmem
  obtain ⟨hlegible, hdots⟩ := Walk.isLegible_manifest
  have hexists : (place.kind? ending).isSome = true := by
    simpa using List.find?_some hstation
  have hvisited : Walk.visited rules place Layout.manifest ending =
      some ⟨ending, some manifest⟩ := by
    rw [Walk.visited_eq hending (Walk.normalize_of_mem_stations hnormal hmem) hlegible hdots,
      if_pos hexists, hmanifest]
  exact ⟨(Walk.manifest_of_visited hending hvisited rfl).2,
    Walk.isImpossible_of_visited hdisk hvisited rfl⟩

/-- **Each way to a file leads to it.** -/
theorem locate_of_finds {path : String} (hcwd : Path.isAbsolute place.cwd = true)
    (hstart : Path.isAbsolute start = true) (h : Finds rules place name start path) :
    Search.outcome place (locate rules place.cwd request name start) = .ok path := by
  cases h with
  | script hfolder hpath =>
      refine locate_of_script hstart hfolder ?_
      rw [outcome_script, hpath, Option.some_or]
  | probe hfolder hscript hfile hpath =>
      refine locate_of_script hstart hfolder ?_
      rw [outcome_script, hscript, Option.none_or, if_pos hfile, hpath]
  | index hends hnone hpath => rw [locate_of_index hcwd hstart hends hnone, hpath]
  | entry hends hholds hfull =>
      rw [locate_of_hasManifest hcwd hstart hends hholds, if_pos hfull]
  | loose hends hholds hloose hpath =>
      rw [locate_of_hasManifest hcwd hstart hends hholds, if_neg (by simp [hloose]), hpath]

/-- **Each way to fail fails**, with the request and with a cause of that kind. -/
theorem locate_of_fails {kind : FailureKind} (hcwd : Path.isAbsolute place.cwd = true)
    (hdisk : place.disk.IsLawful) (hstart : Path.isAbsolute start = true)
    (h : Fails rules place name start kind) :
    ∃ cause : Cause, cause.kind = kind ∧
      Search.outcome place (locate rules place.cwd request name start) =
        .error (.failed ⟨request, cause⟩) := by
  cases h with
  | noLibrary hnames =>
      refine ⟨.noLibrary, rfl, ?_⟩
      rcases directory_cases place request name start with ⟨-, hcase⟩ | ⟨hsome, -⟩ |
        ⟨hsome, -⟩ | ⟨hsome, -⟩
      · rw [outcome_locate, hcase]
        rfl
      · exact absurd hnames hsome
      · exact absurd hnames hsome
      · exact absurd hnames hsome
  | noDependencyRoot hnames hroot hnone =>
      refine ⟨.noDependencyRoot, rfl, ?_⟩
      have hnowhere : (Walk.nearest place.cwd Layout.dependencyRoot start).outcome place = none := by
        rw [Walk.outcome_nearest_of_isAbsolute hstart, Option.map_eq_none_iff,
          List.find?_eq_none]
        intro folder hfolder
        rw [hnone folder hfolder]
        simp
      rcases directory_cases place request name start with ⟨hnames', -⟩ | ⟨-, hrooted, -⟩ |
        ⟨-, -, root, hsome, -⟩ | ⟨-, -, -, hcase⟩
      · exact absurd hnames' hnames
      · exact absurd hrooted hroot
      · rw [hnowhere] at hsome
        cases hsome
      · rw [outcome_locate, hcase]
        rfl
  | @noAncestor folder hsearched hnone =>
      refine ⟨.noAncestor Layout.manifest folder, rfl, ?_⟩
      have hstation : Walk.firstStation place folder (rules.fallback == .escalate) = none := by
        refine List.find?_eq_none.mpr fun station hmem => ?_
        rw [hnone station hmem]
        simp
      rw [locate_of_isSearched hcwd hstart hsearched, hstation]
  | @noManifest ending hends hnone hindex =>
      refine ⟨.noManifest ending, rfl, ?_⟩
      rw [locate_of_index hcwd hstart hends hnone, hindex]
  -- what is neither a manifest nor in excess is a fault
  | @badManifest ending manifest hends hbad hfits =>
      obtain ⟨hnamed, hpossible⟩ := manifest_of_endsAt hcwd hdisk hstart hends
      cases hentry : Search.outcome place (Manifest.entryPath rules request manifest) with
      | ok entry =>
          obtain ⟨entries, hholds, -⟩ := Manifest.hasManifest_of_entryPath hnamed hentry
          exact absurd ⟨entries, hholds⟩ hbad
      | error stop =>
          rcases Manifest.stop_of_entryPath hnamed hpossible hentry with
            ⟨fault, rfl⟩ | ⟨excess, hexcess, -⟩
          · refine ⟨.badManifest manifest fault, rfl, ?_⟩
            rw [locate_of_endsAt hcwd hstart hends, entryFile, Search.outcome_bind, hentry]
            rfl
          · exact absurd ⟨excess, hexcess⟩ hfits
  | @noEntry ending manifest entries hends hholds hloose hnone =>
      refine ⟨.noEntry (namedBy rules manifest entries) manifest, rfl, ?_⟩
      rw [locate_of_hasManifest hcwd hstart hends hholds, if_neg (by simp [hloose]), hnone]

/-- **A manifest in excess stops the search.** -/
theorem locate_of_exceeds {excess : Json.Excess} (hcwd : Path.isAbsolute place.cwd = true)
    (hstart : Path.isAbsolute start = true) (h : Exceeds rules place name start excess) :
    Search.outcome place (locate rules place.cwd request name start) =
      .error (.excessive excess) := by
  obtain ⟨ending, manifest, hends, hexcess⟩ := h
  rw [locate_of_endsAt hcwd hstart hends, entryFile, Search.outcome_bind,
    Manifest.entryPath_of_hasExcess hexcess]
  rfl

/-! ### One of the lists applies -/

/-- A name stands for no library, or there is no dependency root for it, or its library is expected
in some folder. -/
theorem expected_cases (rules : Rules) (place : Place) (name start : String) :
    (∃ kind, Fails rules place name start kind) ∨
      ∃ folder, IsExpected place name start folder := by
  by_cases hnames : NamesNone name
  · exact Or.inl ⟨_, .noLibrary hnames⟩
  by_cases hroot : Layout.dependencyRoot ∈ Path.segments name
  · exact Or.inr ⟨_, .spelled hnames hroot⟩
  cases hnearest : (Path.lineage start).find? fun folder =>
      (place.kind? (Path.join [folder, Layout.dependencyRoot])).isSome with
  | some above => exact Or.inr ⟨_, .hoisted hnames hroot hnearest⟩
  | none =>
      refine Or.inl ⟨_, .noDependencyRoot hnames hroot fun folder hfolder => ?_⟩
      simpa using List.find?_eq_none.mp hnearest folder hfolder

/-- The folder of a library leads to a file at once, or it is searched. -/
theorem isSearched_or_finds (rules : Rules) {folder : String}
    (hfolder : IsExpected place name start folder) :
    (∃ path, Finds rules place name start path) ∨ IsSearched rules place name start folder := by
  cases hscript : (rules.firstMatch folder).outcome place with
  | some path => exact Or.inl ⟨path, .script hfolder hscript⟩
  | none =>
      by_cases hfile : place.kind? folder = some .file
      · cases hprobe : (rules.probeFile folder).outcome place with
        | some path => exact Or.inl ⟨path, .probe hfolder hscript hfile hprobe⟩
        | none => exact Or.inr ⟨hfolder, hscript, fun _ => hprobe⟩
      · exact Or.inr ⟨hfolder, hscript, fun h => absurd h hfile⟩

/-- Whatever is at the path of a manifest, one of the lists applies. -/
theorem verdict_of_endsAt {ending manifest : String}
    (hends : EndsAt rules place name start ending manifest) :
    (∃ path, Finds rules place name start path) ∨
      (∃ kind, Fails rules place name start kind) ∨
      ∃ excess, Exceeds rules place name start excess := by
  by_cases hholds : ∃ entries, place.HasManifest manifest entries
  · obtain ⟨entries, hholds⟩ := hholds
    cases hentry : rules.isRecognized (Path.extension (namedBy rules manifest entries)) with
    | true => exact Or.inl ⟨_, .entry hends hholds hentry⟩
    | false =>
        cases hmatch : (entryMatch rules (namedBy rules manifest entries) ending).outcome place with
        | some path => exact Or.inl ⟨path, .loose hends hholds hentry hmatch⟩
        | none => exact Or.inr (Or.inl ⟨_, .noEntry hends hholds hentry hmatch⟩)
  by_cases hexcess : ∃ excess, place.HasExcess manifest excess
  · obtain ⟨excess, hexcess⟩ := hexcess
    exact Or.inr (Or.inr ⟨excess, ending, manifest, hends, hexcess⟩)
  · exact Or.inr (Or.inl ⟨_, .badManifest hends hholds hexcess⟩)

/-- **One of the lists always applies.** -/
theorem verdict_cases (rules : Rules) (place : Place) (name start : String) :
    (∃ path, Finds rules place name start path) ∨
      (∃ kind, Fails rules place name start kind) ∨
      ∃ excess, Exceeds rules place name start excess := by
  rcases expected_cases rules place name start with hfails | ⟨folder, hfolder⟩
  · exact Or.inr (Or.inl hfails)
  rcases isSearched_or_finds rules hfolder with hfinds | hsearched
  · exact Or.inl hfinds
  cases hstation : Walk.firstStation place folder (rules.fallback == .escalate) with
  | none =>
      refine Or.inr (Or.inl ⟨_, .noAncestor hsearched fun station hmem => ?_⟩)
      simpa using List.find?_eq_none.mp hstation station hmem
  | some ending =>
      have hends : EndsIn rules place name start ending := ⟨folder, hsearched, hstation⟩
      cases hmanifest : Walk.fileOf rules place Layout.manifest ending with
      | some manifest => exact verdict_of_endsAt ⟨hends, hmanifest⟩
      | none =>
          cases hindex : (rules.indexMatch ending).outcome place with
          | some path => exact Or.inl ⟨path, .index hends hmanifest hindex⟩
          | none => exact Or.inr (Or.inl ⟨_, .noManifest hends hmanifest hindex⟩)

/-! ### The law -/

/-- **What locating a library comes to, and exactly when**: a path, a failure of the request of
one of six kinds, or the excess of a manifest. -/
theorem locate_verdict (rules : Rules) (place : Place) (hcwd : Path.isAbsolute place.cwd = true)
    (hdisk : place.disk.IsLawful) (request : Request) (name start : String)
    (hstart : Path.isAbsolute start = true) :
    let outcome := Search.outcome place (locate rules place.cwd request name start)
    (∀ path, outcome = .ok path ↔ Finds rules place name start path) ∧
    (∀ kind, (∃ failure, outcome = .error (.failed failure) ∧ failure.request = request ∧
      failure.kind = kind) ↔ Fails rules place name start kind) ∧
    (∀ excess, outcome = .error (.excessive excess) ↔ Exceeds rules place name start excess) ∧
    ∀ failure, outcome ≠ .error (.impossible failure) := by
  intro outcome
  have hfinds : ∀ {path}, Finds rules place name start path → outcome = .ok path :=
    locate_of_finds hcwd hstart
  have hfails : ∀ {kind}, Fails rules place name start kind →
      ∃ cause : Cause, cause.kind = kind ∧ outcome = .error (.failed ⟨request, cause⟩) :=
    locate_of_fails hcwd hdisk hstart
  have hexceeds : ∀ {excess}, Exceeds rules place name start excess →
      outcome = .error (.excessive excess) := locate_of_exceeds hcwd hstart
  have hcases := verdict_cases rules place name start
  -- the list that applies tells the outcome, so an outcome tells which of them it is
  refine ⟨fun path => ⟨fun h => ?_, hfinds⟩, fun kind => ⟨?_, fun h => ?_⟩,
    fun excess => ⟨fun h => ?_, hexceeds⟩, fun failure h => ?_⟩
  · rcases hcases with ⟨other, happlies⟩ | ⟨kind, happlies⟩ | ⟨excess, happlies⟩
    · rw [hfinds happlies] at h
      cases h
      exact happlies
    · obtain ⟨cause, -, hcause⟩ := hfails happlies
      rw [hcause] at h
      cases h
    · rw [hexceeds happlies] at h
      cases h
  · rintro ⟨failure, h, -, hkind⟩
    rcases hcases with ⟨path, happlies⟩ | ⟨other, happlies⟩ | ⟨excess, happlies⟩
    · rw [hfinds happlies] at h
      cases h
    · obtain ⟨cause, rfl, hcause⟩ := hfails happlies
      rw [hcause] at h
      cases h
      rw [← hkind]
      exact happlies
    · rw [hexceeds happlies] at h
      cases h
  · obtain ⟨cause, hkind, hcause⟩ := hfails h
    exact ⟨⟨request, cause⟩, hcause, rfl, hkind⟩
  · rcases hcases with ⟨path, happlies⟩ | ⟨kind, happlies⟩ | ⟨other, happlies⟩
    · rw [hfinds happlies] at h
      cases h
    · obtain ⟨cause, -, hcause⟩ := hfails happlies
      rw [hcause] at h
      cases h
    · rw [hexceeds happlies] at h
      cases h
      exact happlies
  · rcases hcases with ⟨path, happlies⟩ | ⟨kind, happlies⟩ | ⟨excess, happlies⟩
    · rw [hfinds happlies] at h
      cases h
    · obtain ⟨cause, -, hcause⟩ := hfails happlies
      rw [hcause] at h
      cases h
    · rw [hexceeds happlies] at h
      cases h

/-- A folder in place of the manifest, in the type package that stands for a missing library. -/
theorem locate_verdict_folder :
    let place : Place := ⟨.subfolder "p" (.subfolder "node_modules" (.subfolder "@types"
      (.subfolder "a" (.subfolder "package.json" .empty .empty) .empty) .empty) .empty) .empty, "/p"⟩
    let rules := ({} : Options).rules
    Fails rules place "a" "/p" .invalidPackageManifest ∧
      ¬ Fails rules place "a" "/p" .invalidAncestorPath := by
  intro place rules
  let manifest := "/p/node_modules/@types/a/package.json"
  let failure : Failure :=
    ⟨⟨"a", "/p"⟩, .badManifest manifest (.unreadable (.unreachable ⟨.isFolder, manifest⟩))⟩
  have hlocate : Search.outcome place (locate rules place.cwd ⟨"a", "/p"⟩ "a" "/p") =
      .error (.failed failure) := by decide +kernel
  obtain ⟨-, hfails, -, -⟩ := locate_verdict rules place (by decide +kernel) (by decide +kernel)
    ⟨"a", "/p"⟩ "a" "/p" (by decide +kernel)
  refine ⟨(hfails _).mp ⟨failure, hlocate, rfl, rfl⟩, fun hother => ?_⟩
  obtain ⟨other, hsame, -, hkind⟩ := (hfails _).mpr hother
  rw [hlocate] at hsame
  cases hsame
  cases hkind

/-- **Too long a number in a manifest is none of the failures**, although the manifest that is found
holds no JSON object that can be read. -/
theorem locate_of_overlong :
    let place := Stage.withManifest Stage.overlong .empty
    let rules := ({} : Options).rules
    let manifest := "/q/p/node_modules/a/package.json"
    EndsAt rules place "a" "/q/p" "/q/p/node_modules/a" manifest ∧
      (¬ ∃ entries, place.HasManifest manifest entries) ∧
      Search.outcome place (locate rules place.cwd ⟨"a", "/q/p"⟩ "a" "/q/p") =
        .error (.excessive (.digits (digitLimit + 1))) := by
  intro place rules manifest
  have hexcess : place.HasExcess manifest (.digits (digitLimit + 1)) :=
    Stage.hasExcess_withManifest .empty
  have hattempt := Stage.attempt_withManifest .empty (by decide +kernel) (by decide +kernel)
    (by decide +kernel)
  have hexpected : IsExpected place "a" "/q/p" "/q/p/node_modules/a" := by
    have hjoin : Path.join [Path.join ["/q/p", Layout.dependencyRoot], "a"] =
        "/q/p/node_modules/a" := by decide +kernel
    rw [← hjoin]
    refine .hoisted ?_ (by decide +kernel) (by decide +kernel)
    rw [NamesNone]
    decide +kernel
  have hfolder : place.kind? "/q/p/node_modules/a" = some .folder := by decide +kernel
  refine ⟨⟨⟨_, ⟨hexpected, by decide +kernel, fun hfile => ?_⟩, by decide +kernel⟩,
    by decide +kernel⟩, ?_, hattempt⟩
  · rw [hfolder] at hfile
    cases hfile
  · rintro ⟨entries, hholds⟩
    obtain ⟨text, hread, hparse⟩ := hholds.parsed
    obtain ⟨other, hother, hover⟩ := hexcess.parsed
    rw [hread] at hother
    cases hother
    rw [hparse] at hover
    cases hover

end Library

end ModuleResolution
