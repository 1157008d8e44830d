import ModuleResolution.Proofs.Disk.Listed
import ModuleResolution.Proofs.Resolve.Locate
import ModuleResolution.Proofs.Resolve.Reads

/-! # Whose manifest a library is read from

The walk for the manifest of a library stays with its folder when that exists: it finds the
manifest in the folder or else the first one below (`Walk.visited_of_isSome`). What is below can
be installed there, in a dependency root of the library's own, and then the manifest is that of
another library. As long as the folder holds a manifest itself, or nothing that is installed below
it does, locating the library reads no other manifest than its own, and without one comes to its
index file (`Library.locate_own`). Otherwise a library is located in another one
(`Library.locate_foreign`).
-/

set_option autoImplicit false

namespace ModuleResolution

/-- The locations below a folder of the files with the name of a manifest. -/
def Place.manifestsBelow (place : Place) (folder : String) : List (List String) :=
  (place.shapeAt folder).locations.filter fun location =>
    location.getLast? == some Layout.manifest

/-- A location below the folder of a library that leads through a dependency root. -/
def IsInstalled (location : List String) : Prop := Layout.dependencyRoot ∈ location

instance (location : List String) : Decidable (IsInstalled location) :=
  inferInstanceAs (Decidable (Layout.dependencyRoot ∈ location))

/-- The path of the manifest in a folder, or of one below that is not installed there. -/
def Place.IsOwnManifest (place : Place) (folder path : String) : Prop :=
  path = Path.join [folder, Layout.manifest] ∨
    ∃ location ∈ place.manifestsBelow folder, ¬ IsInstalled location ∧
      path = Listing.pathOf folder location

namespace Walk

variable {rules : Rules} {place : Place} {folder : String}

/-- **A walk stays with a folder that exists.** -/
theorem visited_of_isSome {target : String} (hfolder : (place.kind? folder).isSome = true) :
    visited rules place target folder =
      if (place.kind? (Path.join [folder, target])).isSome then
        some ⟨folder, some (Path.join [folder, target])⟩
      else some ⟨folder, firstBelow rules place target folder⟩ := by
  rw [visited, if_pos hfolder]

theorem namedEntry_of_visited {request : Request} {target : String} {mayEscalate : Bool}
    {walk : Walk} (h : visited rules place target folder = some walk) :
    Search.outcome place (namedEntry rules place.cwd request target folder mayEscalate) =
      .ok walk := by
  rw [outcome_namedEntry, stations, List.findSome?_cons, h]

/-- A manifest that is found below a folder is one of those that the folder holds. -/
theorem mem_manifestsBelow_of_firstBelow {manifest : String} (hdisk : place.disk.IsLawful)
    (hfolder : Path.isAbsolute folder = true)
    (h : firstBelow rules place Layout.manifest folder = some manifest) :
    ∃ location ∈ place.manifestsBelow folder, manifest = Listing.pathOf folder location := by
  unfold firstBelow at h
  have hname := List.find?_some h
  rw [targetNames_manifest] at hname
  obtain ⟨location, hlocation, rfl, hlast⟩ :=
    Listing.exists_of_mem_paths hdisk hfolder (List.mem_of_find?_eq_some h)
  refine ⟨location, List.mem_filter.mpr ⟨hlocation, ?_⟩, rfl⟩
  rw [hlast]
  simpa using hname

end Walk

namespace Library

variable {rules : Rules} {place : Place} {request : Request} {name start root : String}

/-- The folder of a library without a dependency root in its name. -/
theorem directory_of_nearest (hnames : Path.segments name ≠ [])
    (hbare : Layout.dependencyRoot ∉ Path.segments name)
    (hroot : (Walk.nearest place.cwd Layout.dependencyRoot start).outcome place = some root) :
    Search.outcome place (directory place.cwd request name start) =
      .ok (Path.join [root, name]) := by
  rcases directory_cases place request name start with ⟨hnone | hlast, -⟩ | ⟨-, hrooted, -⟩ |
    ⟨-, -, other, hother, hcase⟩ | ⟨-, -, hnowhere, -⟩
  · exact absurd hnone hnames
  · exact absurd (List.mem_of_getLast? hlast) hbare
  · exact absurd hrooted hbare
  · rw [hroot] at hother
    cases hother
    exact hcase
  · rw [hroot] at hnowhere
    cases hnowhere

/-- Beside a folder without a script of its name there is none to be found. -/
theorem script_of_folder {folder : String} (hfolder : place.kind? folder = some .folder)
    (hscript : (rules.firstMatch folder).outcome place = none) :
    (script rules name folder).outcome place = none := by
  rw [script, Lookup.outcome_orElse, Rules.outcome_noting, hscript, Lookup.outcome, hfolder]
  rfl

/-- **The manifest that a walk from a folder finds** is its own, when the folder holds one or
nothing that is installed below does. -/
theorem isOwnManifest_of_namedEntry {folder manifest : String} {mayEscalate : Bool} {walk : Walk}
    (hdisk : place.disk.IsLawful) (habsolute : Path.isAbsolute folder = true)
    (hfolder : (place.kind? folder).isSome = true)
    (hown : (place.kind? (Path.join [folder, Layout.manifest])).isSome = true ∨
      ∀ location ∈ place.manifestsBelow folder, ¬ IsInstalled location)
    (hwalk : Search.outcome place
      (Walk.namedEntry rules place.cwd request Layout.manifest folder mayEscalate) = .ok walk)
    (hfound : walk.found = some manifest) : place.IsOwnManifest folder manifest := by
  have hvisited : Walk.visited rules place Layout.manifest folder = _ :=
    Walk.visited_of_isSome hfolder
  split at hvisited
  · rw [Walk.namedEntry_of_visited hvisited] at hwalk
    cases hwalk
    cases hfound
    exact Or.inl rfl
  · next hdirect =>
      rw [Walk.namedEntry_of_visited hvisited] at hwalk
      cases hwalk
      obtain ⟨location, hlocation, rfl⟩ :=
        Walk.mem_manifestsBelow_of_firstBelow hdisk habsolute hfound
      exact Or.inr ⟨location, hlocation, hown.resolve_left hdirect location hlocation, rfl⟩

/-- Where a folder holds no manifest and nothing below it does, a walk from it finds none. -/
theorem namedEntry_of_no_manifest {folder : String} {mayEscalate : Bool}
    (hdisk : place.disk.IsLawful) (habsolute : Path.isAbsolute folder = true)
    (hfolder : (place.kind? folder).isSome = true)
    (hdirect : place.kind? (Path.join [folder, Layout.manifest]) = none)
    (hbelow : ∀ location, location ∉ place.manifestsBelow folder) :
    Search.outcome place
      (Walk.namedEntry rules place.cwd request Layout.manifest folder mayEscalate) =
        .ok ⟨folder, none⟩ := by
  have hnone : Walk.firstBelow rules place Layout.manifest folder = none := by
    cases hfirst : Walk.firstBelow rules place Layout.manifest folder with
    | none => rfl
    | some manifest =>
        obtain ⟨location, hlocation, -⟩ :=
          Walk.mem_manifestsBelow_of_firstBelow hdisk habsolute hfirst
        exact absurd hlocation (hbelow location)
  refine Walk.namedEntry_of_visited ?_
  rw [Walk.visited_of_isSome hfolder, hdirect, if_neg (by simp), hnone]

/-- **A library is read from its own manifest**, as long as its folder holds one or nothing that
is installed below does. Then no text is read but that of the manifest in the folder or of one
below that is not installed there; and without either of them, when there is no manifest below at
all, the library is its index file if there is no script with its name. -/
theorem locate_own (rules : Rules) (place : Place) (hcwd : Path.isAbsolute place.cwd = true)
    (hdisk : place.disk.IsLawful) (request : Request) (name start root : String)
    (hnames : Path.segments name ≠ []) (hbare : Layout.dependencyRoot ∉ Path.segments name)
    (hroot : (Walk.nearest place.cwd Layout.dependencyRoot start).outcome place = some root) :
    let folder := Path.join [root, name]
    let direct := Path.join [folder, Layout.manifest]
    let search := locate rules place.cwd request name start
    place.kind? folder = some .folder →
    (place.kind? direct).isSome = true ∨
      (∀ location ∈ place.manifestsBelow folder, ¬ IsInstalled location) →
    (∀ path, .text path ∈ search.run.questions place → place.IsOwnManifest folder path) ∧
    (place.kind? direct = none →
      (∀ location ∈ place.manifestsBelow folder, IsInstalled location) →
      (rules.firstMatch folder).outcome place = none →
      ∀ index, (rules.indexMatch folder).outcome place = some index →
        search.outcome place = .ok index) := by
  intro folder direct search hfolder hown
  have hdirectory : Search.outcome place (directory place.cwd request name start) = .ok folder :=
    directory_of_nearest hnames hbare hroot
  obtain ⟨habsolute, -⟩ := isAbsolute_of_directory hcwd hdirectory
  have hsome : (place.kind? folder).isSome = true := by rw [hfolder]; rfl
  constructor
  · -- the only text that is read is at the path that the walk from this folder finds
    have hreads : Search.Reads (place.IsOwnManifest folder) place place search := by
      refine reads_locate rules (fun _ _ => rfl) fun other walk manifest hother hwalk hfound => ?_
      rw [hdirectory] at hother
      cases hother
      exact isOwnManifest_of_namedEntry hdisk habsolute hsome hown hwalk hfound
    exact fun path hread => hreads.of_mem_questions hread
  · intro hdirect hinstalled hscript index hindex
    -- whatever manifest there is lies below, and is both installed there and not
    have hbelow : ∀ location, location ∉ place.manifestsBelow folder := by
      intro location hlocation
      have hmissing : ¬ (place.kind? direct).isSome = true := by rw [hdirect]; simp
      exact hown.resolve_left hmissing location hlocation (hinstalled location hlocation)
    have hwalk : Search.outcome place (Walk.namedEntry rules place.cwd request Layout.manifest
        folder (rules.fallback == .escalate)) = .ok ⟨folder, none⟩ :=
      namedEntry_of_no_manifest hdisk habsolute hsome hdirect hbelow
    have hfile : Search.outcome place (fileOfWalk rules request name ⟨folder, none⟩) =
        .ok index := by
      show Search.outcome place (liftM _ >>= _) = _
      rw [Search.outcome_bind, Search.outcome_lift, Rules.outcome_noting, hindex]
      rfl
    show Search.outcome place (locate rules place.cwd request name start) = _
    rw [outcome_locate, hdirectory, Except.bind, script_of_folder hfolder hscript]
    dsimp only
    rw [hwalk, Except.bind, hfile]

/-- A place with a library `a` that has an index file, and with something else in its folder. -/
def indexed (others : Disk) : Place :=
  ⟨.subfolder "p" (.subfolder "node_modules" (.subfolder "a" (.file "index.js" [] others)
    .empty) .empty) .empty, "/p"⟩

/-- A manifest that names a script. -/
def naming : List UInt8 := Utf8.encode "\x7b\"main\": \"lib/b.js\"\x7d"

/-- A library with a manifest in a folder of its own, and one with nothing but an index file. -/
theorem locate_own_below :
    let below : Disk := .subfolder "lib" (.file "package.json" naming .empty) .empty
    let search := locate ({} : Options).rules "/p" ⟨"a", "/p"⟩ "a" "/p"
    (indexed below).IsOwnManifest "/p/node_modules/a" "/p/node_modules/a/lib/package.json" ∧
      search.outcome (indexed .empty) = .ok "/p/node_modules/a/index.js" := by
  intro below search
  constructor
  · obtain ⟨hreads, -⟩ := locate_own ({} : Options).rules (indexed below) (by decide +kernel)
      (by decide +kernel) ⟨"a", "/p"⟩ "a" "/p" "/p/node_modules" (by decide +kernel)
      (by decide +kernel) (by decide +kernel) (by decide +kernel) (Or.inr (by decide +kernel))
    have hfolder : Path.join ["/p/node_modules", "a"] = "/p/node_modules/a" := by decide +kernel
    rw [← hfolder]
    exact hreads _ (by decide +kernel)
  · obtain ⟨-, hindex⟩ := locate_own ({} : Options).rules (indexed .empty) (by decide +kernel)
      (by decide +kernel) ⟨"a", "/p"⟩ "a" "/p" "/p/node_modules" (by decide +kernel)
      (by decide +kernel) (by decide +kernel) (by decide +kernel) (Or.inr (by decide +kernel))
    exact hindex (by decide +kernel) (by decide +kernel) (by decide +kernel) _ (by decide +kernel)

/-- **A library is located in another one** that is installed in its folder: it has an index file
and no manifest of its own, but the manifest of the other one is read. -/
theorem locate_foreign :
    let installed : Disk := .subfolder "node_modules" (.subfolder "b"
      (.file "package.json" naming (.subfolder "lib" (.file "b.js" [] .empty) .empty)) .empty)
      .empty
    let place := indexed installed
    let folder := "/p/node_modules/a"
    let search := locate ({} : Options).rules "/p" ⟨"a", "/p"⟩ "a" "/p"
    (place.kind? (Path.join [folder, Layout.manifest]) = none ∧
      (∀ location ∈ place.manifestsBelow folder, IsInstalled location) ∧
      (({} : Options).rules.firstMatch folder).outcome place = none ∧
      (({} : Options).rules.indexMatch folder).outcome place = some "/p/node_modules/a/index.js") ∧
    .text "/p/node_modules/a/node_modules/b/package.json" ∈ search.run.questions place ∧
      search.outcome place = .ok "/p/node_modules/a/node_modules/b/lib/b.js" := by
  decide +kernel

end Library

end ModuleResolution
