import ModuleResolution.Proofs.Resolve.Locality
import ModuleResolution.Proofs.Resolve.Manifest
import ModuleResolution.Proofs.Resolve.Walk
import ModuleResolution.Resolve.Library

/-! # Where a located library comes from

The folder of a library has one of four outcomes, said once in `directory_cases`, and what comes
after it is said in `outcome_locate`. A path that is given for a library has one of two origins
(`Rules.Origin`): a probe of an absolute normal path saw it and it leads to a file, or a manifest
names it in full. Each search only gives paths of that kind, whichever way it takes
(`origin_of_locate`), at whichever station the walk for the manifest ended. So a located path is
absolute, and normal as long as no extension holds a slash (`Origin.normalize_eq`).
-/

set_option autoImplicit false

namespace ModuleResolution

namespace Rules

/-- What a path that is given for a library rests on: it leads to a file, or a manifest on the
disk names it as its entry and its extension is recognized. -/
def IsGrounded (rules : Rules) (place : Place) (path : String) : Prop :=
  place.kind? path = some .file ∨
    ∃ manifest entries, place.HasManifest manifest entries ∧
      path = Path.join [Path.parent manifest, Manifest.entry rules entries] ∧
      Path.extension path ∈ rules.allowed ∧ Path.extension path ∉ rules.excluded

variable {rules : Rules} {place : Place} {path : String}

/-! ## Origins -/

/-- Where a path that is given comes from: it is tried for an absolute normal path and leads to a
file, or a manifest at an absolute path names it. -/
inductive Origin (rules : Rules) (place : Place) (path : String) : Prop
  | probe (target : String) (habsolute : Path.isAbsolute target = true)
      (hnormal : Path.normalize target = target) (hprobed : path ∈ rules.probed target)
      (hfile : place.kind? path = some .file)
  | entry (manifest : String) (entries : Mapping) (habsolute : Path.isAbsolute manifest = true)
      (hholds : place.HasManifest manifest entries)
      (hpath : path = Path.join [Path.parent manifest, Manifest.entry rules entries])
      (hallowed : Path.extension path ∈ rules.allowed)
      (hexcluded : Path.extension path ∉ rules.excluded)

theorem Origin.isAbsolute (h : rules.Origin place path) : Path.isAbsolute path = true := by
  cases h with
  | probe target habsolute hnormal hprobed hfile =>
      exact isAbsolute_of_mem_probed habsolute hnormal hprobed
  | entry manifest entries habsolute hholds hpath hallowed hexcluded =>
      rw [hpath]
      exact Path.isAbsolute_join (Path.isAbsolute_parent habsolute) _

theorem Origin.isGrounded (h : rules.Origin place path) : rules.IsGrounded place path := by
  cases h with
  | probe target habsolute hnormal hprobed hfile => exact Or.inl hfile
  | entry manifest entries habsolute hholds hpath hallowed hexcluded =>
      exact Or.inr ⟨manifest, entries, hholds, hpath, hallowed, hexcluded⟩

/-- **A path with an origin is normal**, when no extension holds a slash. -/
theorem Origin.normalize_eq (h : rules.Origin place path)
    (hslash : ∀ extension ∈ rules.allowed, '/' ∉ extension.toList) :
    Path.normalize path = path := by
  cases h with
  | probe target habsolute hnormal hprobed hfile =>
      exact (parent_of_mem_probed habsolute hnormal hslash hprobed hfile).1
  | entry manifest entries habsolute hholds hpath hallowed hexcluded =>
      rw [hpath]
      exact Path.normalize_normalize _

theorem origin_of_probeFile {target : String} (habsolute : Path.isAbsolute target = true)
    (hnormal : Path.normalize target = target)
    (h : (rules.probeFile target).outcome place = some path) : rules.Origin place path := by
  rw [outcome_probeFile] at h
  exact .probe target habsolute hnormal (List.mem_of_find?_eq_some h)
    (by simpa using List.find?_some h)

/-- The candidates for a path are among the paths that are tried for it. -/
theorem mem_probed_of_mem_candidates {target : String} (h : path ∈ rules.candidates target) :
    path ∈ rules.probed target := by
  unfold probed
  simp only [List.mem_append]
  exact Or.inr (Or.inr (Or.inl h))

theorem origin_of_firstMatch {stem : String} (habsolute : Path.isAbsolute stem = true)
    (hnormal : Path.normalize stem = stem)
    (h : (rules.firstMatch stem).outcome place = some path) : rules.Origin place path := by
  rw [outcome_firstMatch] at h
  exact .probe stem habsolute hnormal
    (mem_probed_of_mem_candidates (List.mem_of_find?_eq_some h)) (by simpa using List.find?_some h)

theorem origin_of_indexMatch {folder : String} (hfolder : Path.isAbsolute folder = true)
    (h : (rules.indexMatch folder).outcome place = some path) : rules.Origin place path :=
  origin_of_firstMatch (Path.isAbsolute_join hfolder _) (Path.normalize_normalize _) h

end Rules

namespace Library

variable {rules : Rules} {place : Place} {request : Request} {path : String}

/-! ## The folder of a library -/

/-- A name has no segments, or ends in a dependency root, so it names no library. -/
def NamesNone (name : String) : Prop :=
  Path.segments name = [] ∨ (Path.segments name).getLast? = some Layout.dependencyRoot

/-- **The four outcomes of looking for the folder of a library.** -/
theorem directory_cases (place : Place) (request : Request) (name start : String) :
    (NamesNone name ∧ Search.outcome place (directory place.cwd request name start) =
        .error (.failed ⟨request, .noLibrary⟩)) ∨
    (¬ NamesNone name ∧ Layout.dependencyRoot ∈ Path.segments name ∧
      Search.outcome place (directory place.cwd request name start) =
        .ok (Path.absoluteFrom place.cwd start name)) ∨
    (¬ NamesNone name ∧ Layout.dependencyRoot ∉ Path.segments name ∧
      ∃ root, (Walk.nearest place.cwd Layout.dependencyRoot start).outcome place = some root ∧
        Search.outcome place (directory place.cwd request name start) =
          .ok (Path.join [root, name])) ∨
    (¬ NamesNone name ∧ Layout.dependencyRoot ∉ Path.segments name ∧
      (Walk.nearest place.cwd Layout.dependencyRoot start).outcome place = none ∧
      Search.outcome place (directory place.cwd request name start) =
        .error (.failed ⟨request, .noDependencyRoot⟩)) := by
  -- the name names nothing, or leads through a dependency root itself, or has to be looked for
  unfold directory
  dsimp only
  split
  · next hnone =>
      have hnames : NamesNone name := by simpa [NamesNone] using hnone
      exact Or.inl ⟨hnames, rfl⟩
  · next hsome =>
      have hnames : ¬ NamesNone name := by simpa [NamesNone] using hsome
      split
      · next hrooted =>
          exact Or.inr (Or.inl ⟨hnames, by simpa using hrooted, rfl⟩)
      · next hunrooted =>
          have hsegments : Layout.dependencyRoot ∉ Path.segments name := by simpa using hunrooted
          rw [Search.outcome_bind, Search.outcome_lift, Except.bind]
          cases (Walk.nearest place.cwd Layout.dependencyRoot start).outcome place with
          | none => exact Or.inr (Or.inr (Or.inr ⟨hnames, hsegments, rfl, rfl⟩))
          | some root => exact Or.inr (Or.inr (Or.inl ⟨hnames, hsegments, root, rfl, rfl⟩))

/-- The folder of a library is the normal form of an absolute path. -/
theorem isAbsolute_of_directory {name start folder : String}
    (hcwd : Path.isAbsolute place.cwd = true)
    (h : Search.outcome place (directory place.cwd request name start) = .ok folder) :
    Path.isAbsolute folder = true ∧ Path.normalize folder = folder := by
  rcases directory_cases place request name start with ⟨-, hcase⟩ | ⟨-, -, hcase⟩ |
    ⟨-, -, root, hnearest, hcase⟩ | ⟨-, -, -, hcase⟩
  · rw [hcase] at h
    cases h
  · rw [hcase] at h
    cases h
    exact ⟨Path.isAbsolute_absoluteFrom hcwd _ _, Path.normalize_absoluteFrom _ _ _⟩
  · rw [hcase] at h
    cases h
    obtain ⟨above, habove, rfl⟩ := Walk.exists_of_nearest hcwd hnearest
    exact ⟨Path.isAbsolute_join (Path.isAbsolute_join habove _) _, Path.normalize_normalize _⟩
  · rw [hcase] at h
    cases h

/-! ## The file of a library -/

theorem origin_of_script {name folder : String} (habsolute : Path.isAbsolute folder = true)
    (hnormal : Path.normalize folder = folder)
    (h : (script rules name folder).outcome place = some path) : rules.Origin place path := by
  rw [script, Lookup.outcome_orElse, Option.or_eq_some_iff, Rules.outcome_noting] at h
  rcases h with hscript | ⟨-, hfile⟩
  · exact Rules.origin_of_firstMatch habsolute hnormal hscript
  · rw [Lookup.outcome] at hfile
    split at hfile
    · exact Rules.origin_of_probeFile habsolute hnormal hfile
    · cases hfile

theorem origin_of_entryMatch {entry folder : String} (hentry : Path.isAbsolute entry = true)
    (hnormal : Path.normalize entry = entry) (hfolder : Path.isAbsolute folder = true)
    (h : (entryMatch rules entry folder).outcome place = some path) : rules.Origin place path := by
  rw [entryMatch, Lookup.outcome_orElse, Lookup.outcome_orElse, Option.or_eq_some_iff,
    Option.or_eq_some_iff] at h
  rcases h with hmatch | ⟨-, hindex | ⟨-, hindex⟩⟩
  · exact Rules.origin_of_firstMatch hentry hnormal hmatch
  · exact Rules.origin_of_indexMatch hentry hindex
  · exact Rules.origin_of_indexMatch hfolder hindex

/-- **The file of an entry** is the entry itself, in full, or a file that a probe saw. -/
theorem origin_of_entryFile {manifest folder : String}
    (hmanifest : Path.isAbsolute manifest = true)
    (hnamed : Path.fileName manifest = Layout.manifest)
    (hfolder : Path.isAbsolute folder = true)
    (h : Search.outcome place (entryFile rules request manifest folder) = .ok path) :
    rules.Origin place path := by
  rw [entryFile, Search.outcome_bind_eq_ok] at h
  obtain ⟨entry, hentry, h⟩ := h
  obtain ⟨entries, hholds, rfl⟩ := Manifest.hasManifest_of_entryPath hnamed hentry
  split at h
  · next hrecognized =>
      cases h
      obtain ⟨hallowed, hexcluded⟩ := Rules.isRecognized_iff.mp hrecognized
      exact .entry manifest entries hmanifest hholds rfl hallowed hexcluded
  · rw [Search.outcome_bind_eq_ok, Search.outcome_lift] at h
    obtain ⟨found, hfound, hpath⟩ := h
    cases found with
    | none => cases hpath
    | some found =>
        cases hpath
        exact origin_of_entryMatch (Path.isAbsolute_join (Path.isAbsolute_parent hmanifest) _)
          (Path.normalize_normalize _) hfolder (Except.ok.inj hfound)

theorem origin_of_fileOfWalk {name : String} {walk : Walk}
    (hfolder : Path.isAbsolute walk.directory = true)
    (hfound : ∀ manifest, walk.found = some manifest →
      Path.isAbsolute manifest = true ∧ Path.fileName manifest = Layout.manifest)
    (h : Search.outcome place (fileOfWalk rules request name walk) = .ok path) :
    rules.Origin place path := by
  unfold fileOfWalk at h
  split at h
  · next manifest hmanifest =>
      obtain ⟨habsolute, hnamed⟩ := hfound manifest hmanifest
      exact origin_of_entryFile habsolute hnamed hfolder h
  · rw [Search.outcome_bind_eq_ok] at h
    obtain ⟨found, hindex, hpath⟩ := h
    rw [Search.outcome_lift, Rules.outcome_noting] at hindex
    cases found with
    | none => cases hpath
    | some found =>
        cases hpath
        exact Rules.origin_of_indexMatch hfolder (Except.ok.inj hindex)

/-- What a walk for a manifest from an absolute folder ends with. -/
theorem walk_of_namedEntry {folder : String} {mayEscalate : Bool} {walk : Walk}
    (hcwd : Path.isAbsolute place.cwd = true) (hfolder : Path.isAbsolute folder = true)
    (h : Search.outcome place
      (Walk.namedEntry rules place.cwd request Layout.manifest folder mayEscalate) = .ok walk) :
    Path.isAbsolute walk.directory = true ∧
      ∀ manifest, walk.found = some manifest →
        Path.isAbsolute manifest = true ∧ Path.fileName manifest = Layout.manifest := by
  obtain ⟨hstation, hvisited⟩ := Walk.visited_of_namedEntry h
  have habsolute := Walk.isAbsolute_of_mem_stations hcwd hfolder hstation
  exact ⟨habsolute, fun manifest => Walk.manifest_of_visited habsolute hvisited⟩

/-- **Locating a library**, step by step. -/
theorem outcome_locate (rules : Rules) (place : Place) (request : Request) (name start : String) :
    Search.outcome place (locate rules place.cwd request name start) =
      (Search.outcome place (directory place.cwd request name start)).bind fun folder =>
        match (script rules name folder).outcome place with
        | some path => .ok path
        | none =>
          (Search.outcome place (Walk.namedEntry rules place.cwd request Layout.manifest folder
            (rules.fallback == .escalate))).bind fun walk =>
              Search.outcome place (fileOfWalk rules request name walk) := by
  rw [locate, Search.outcome_bind]
  congr 1
  funext folder
  rw [Search.outcome_bind, Search.outcome_lift, Except.bind]
  cases (script rules name folder).outcome place with
  | some path => rfl
  | none => exact Search.outcome_bind place _ _

/-- **Whatever locating a library gives** has an origin. -/
theorem origin_of_locate {name start : String} (hcwd : Path.isAbsolute place.cwd = true)
    (h : Search.outcome place (locate rules place.cwd request name start) = .ok path) :
    rules.Origin place path := by
  rw [locate, Search.outcome_bind_eq_ok] at h
  obtain ⟨folder, hfolder, h⟩ := h
  obtain ⟨habsolute, hnormal⟩ := isAbsolute_of_directory hcwd hfolder
  rw [Search.outcome_bind_eq_ok, Search.outcome_lift] at h
  obtain ⟨found, hfound, hpath⟩ := h
  cases found with
  | some found =>
      cases hpath
      exact origin_of_script habsolute hnormal (Except.ok.inj hfound)
  | none =>
      rw [Search.outcome_bind_eq_ok] at hpath
      obtain ⟨walk, hwalk, hfile⟩ := hpath
      obtain ⟨hdirectory, hmanifest⟩ := walk_of_namedEntry hcwd habsolute hwalk
      exact origin_of_fileOfWalk hdirectory hmanifest hfile

/-- A located path is absolute, and a file or the full entry of a manifest. -/
theorem isGrounded_of_locate {name start : String} (hcwd : Path.isAbsolute place.cwd = true)
    (h : Search.outcome place (locate rules place.cwd request name start) = .ok path) :
    Path.isAbsolute path = true ∧ rules.IsGrounded place path :=
  ⟨(origin_of_locate hcwd h).isAbsolute, (origin_of_locate hcwd h).isGrounded⟩

end Library

end ModuleResolution
