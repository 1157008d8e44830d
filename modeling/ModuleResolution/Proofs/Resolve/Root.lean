import ModuleResolution.Proofs.Path.Climb
import ModuleResolution.Proofs.Resolve.Locate

/-! # Libraries and their dependency root

The folder of a library is made of a dependency root and of a name, and only the segments of the
name are looked at before. So it lies strictly below the root exactly for the names that are inner
when they are read as paths (`isBelow_of_directory`): `..` and `.` are segments like any others,
and a name made of them can lead to the dependency root or out of it (`directory_of_climbing`).
-/

set_option autoImplicit false

namespace ModuleResolution

open ModuleResolution.Path (IsBelow IsInner)

theorem Layout.isLegible_dependencyRoot :
    Path.IsLegible dependencyRoot ∧ dependencyRoot ≠ ".." ∧ dependencyRoot ≠ "" ∧
      '\\' ∉ dependencyRoot.toList := by
  decide +kernel

/-- The normal form of a path lies below what the path lies below. -/
theorem Path.isBelow_normalize_iff {path folder : String} :
    IsBelow (normalize path) folder ↔ IsBelow path folder := by
  unfold IsBelow
  rw [read_normalize]

namespace Walk

variable {place : Place}

/-- A nearest entry is a path with the name that was looked for as its last. -/
theorem read_of_nearest {name start path : String} (hcwd : Path.isAbsolute place.cwd = true)
    (hname : Path.IsLegible name) (hdots : name ≠ "..")
    (h : (nearest place.cwd name start).outcome place = some path) :
    Path.isAbsolute path = true ∧ Path.fileName path = name ∧ (Path.read path).names ≠ [] := by
  obtain ⟨above, habove, rfl⟩ := exists_of_nearest hcwd h
  refine ⟨Path.isAbsolute_join habove _, Path.fileName_join habove hname hdots, ?_⟩
  rw [Path.read_join_name above hname hdots]
  simp

end Walk

namespace Library

variable {place : Place}

/-- A name without a dependency root, behind a dependency root, leads below it when it is inner. -/
theorem isBelow_join_iff {root name : String} (habsolute : Path.isAbsolute root = true)
    (hne : (Path.read root).names ≠ []) (hroot : Path.fileName root = Layout.dependencyRoot)
    (hname : Layout.dependencyRoot ∉ Path.segments name) :
    IsBelow (Path.join [root, name]) root ↔ IsInner name := by
  obtain ⟨-, -, -, hslash⟩ := Layout.isLegible_dependencyRoot
  have hread : Path.fileName root ∉ (Path.read name).names := by
    rw [hroot]
    exact fun hmem => hname (Path.mem_segments_of_mem_read hslash hmem)
  exact Path.isBelow_normalize_iff.trans (Path.isBelow_append_iff habsolute hne hread)

/-- A name that leads through a dependency root leads below one from everywhere. -/
theorem exists_isBelow_of_rooted {name start : String} (hcwd : Path.isAbsolute place.cwd = true)
    (h : Layout.dependencyRoot ∈ (Path.descent name).dropLast) :
    ∃ root, Path.fileName root = Layout.dependencyRoot ∧
      IsBelow (Path.absoluteFrom place.cwd start name) root := by
  obtain ⟨-, -, hempty, -⟩ := Layout.isLegible_dependencyRoot
  refine (Path.exists_isBelow_iff (Path.isAbsolute_absoluteFrom hcwd _ _) hempty).mpr ?_
  unfold Path.absoluteFrom
  split
  · next habsolute =>
      rwa [Path.read_normalize, ← Path.descent_of_isAbsolute habsolute]
  · next hrelative =>
      -- whatever the name takes off the path before it, it ends with its descent
      have hbase : Path.isAbsolute (Path.normalize (Path.append place.cwd start)) = true := by
        rw [Path.isAbsolute_normalize]
        exact Path.isAbsolute_append hcwd start
      have hne : Path.descent name ≠ [] := by
        rintro hnil
        simp [hnil] at h
      rw [Path.read_normalize, Path.names_read_append hbase (by simpa using hrelative),
        List.dropLast_append_of_ne_nil hne]
      exact List.mem_append_right _ h

/-- **Where the folder of a library lies.** Names without segments, and names that end in a
dependency root, are the ones that name no library. The folder for any other name lies strictly
below the dependency root that was found exactly when the name is inner; and below some dependency
root when the name leads through one itself. -/
theorem isBelow_of_directory (place : Place) (hcwd : Path.isAbsolute place.cwd = true)
    (request : Request) (name start : String) :
    (Search.outcome place (directory place.cwd request name start) =
        .error (.failed ⟨request, .noLibrary⟩) ↔ NamesNone name) ∧
    ∀ folder, Search.outcome place (directory place.cwd request name start) = .ok folder →
      (Layout.dependencyRoot ∉ Path.segments name →
        ∃ root, (Walk.nearest place.cwd Layout.dependencyRoot start).outcome place = some root ∧
          Path.fileName root = Layout.dependencyRoot ∧ (IsBelow folder root ↔ IsInner name)) ∧
      (Layout.dependencyRoot ∈ Path.segments name →
        Layout.dependencyRoot ∈ (Path.descent name).dropLast →
        ∃ root, Path.fileName root = Layout.dependencyRoot ∧ IsBelow folder root) := by
  obtain ⟨hlegible, hdots, -, -⟩ := Layout.isLegible_dependencyRoot
  -- only a name that is looked for gets a folder in the root that was found
  rcases directory_cases place request name start with ⟨hnone, hcase⟩ |
    ⟨hnames, hrooted, hcase⟩ | ⟨hnames, hunrooted, root, hnearest, hcase⟩ |
    ⟨hnames, hunrooted, hnearest, hcase⟩
  · rw [hcase]
    refine ⟨iff_of_true rfl hnone, fun folder h => ?_⟩
    cases h
  · rw [hcase]
    refine ⟨iff_of_false (by simp) hnames, fun folder h => ?_⟩
    cases h
    exact ⟨fun hunrooted => absurd hrooted hunrooted, fun _ => exists_isBelow_of_rooted hcwd⟩
  · rw [hcase]
    refine ⟨iff_of_false (by simp) hnames, fun folder h => ?_⟩
    cases h
    obtain ⟨habsolute, hfile, hne⟩ := Walk.read_of_nearest hcwd hlegible hdots hnearest
    refine ⟨fun _ => ⟨root, hnearest, hfile, ?_⟩, fun hrooted => absurd hrooted hunrooted⟩
    exact isBelow_join_iff habsolute hne hfile hunrooted
  · rw [hcase]
    refine ⟨iff_of_false (by simp) hnames, fun folder h => ?_⟩
    cases h

/-- A name without a dependency root in it, and one that starts with it. -/
theorem isBelow_of_directory_scoped :
    let place : Place := ⟨.subfolder "p" (.subfolder "node_modules" .empty .empty) .empty, "/p"⟩
    Search.outcome place (directory "/p" ⟨"@s/a", "/p"⟩ "@s/a" "/p") =
        .ok "/p/node_modules/@s/a" ∧
      (∃ root, Path.fileName root = Layout.dependencyRoot ∧
        IsBelow "/p/node_modules/@s/a" root) ∧
      Search.outcome place (directory "/p" ⟨"node_modules/b", "/p"⟩ "node_modules/b" "/p") =
        .ok "/p/node_modules/b" ∧
      ∃ root, Path.fileName root = Layout.dependencyRoot ∧ IsBelow "/p/node_modules/b" root := by
  intro place
  have hfolder : Search.outcome place (directory "/p" ⟨"@s/a", "/p"⟩ "@s/a" "/p") =
      .ok "/p/node_modules/@s/a" := by decide +kernel
  obtain ⟨root, -, hroot, hbelow⟩ := ((isBelow_of_directory place (by decide +kernel)
    ⟨"@s/a", "/p"⟩ "@s/a" "/p").2 _ hfolder).1 (by decide +kernel)
  have hrooted : Search.outcome place
      (directory "/p" ⟨"node_modules/b", "/p"⟩ "node_modules/b" "/p") =
        .ok "/p/node_modules/b" := by decide +kernel
  refine ⟨hfolder, ⟨root, hroot, hbelow.mpr (by decide +kernel)⟩, hrooted, ?_⟩
  exact ((isBelow_of_directory place (by decide +kernel) ⟨"node_modules/b", "/p"⟩
    "node_modules/b" "/p").2 _ hrooted).2 (by decide +kernel) (by decide +kernel)

/-- **A name that climbs is not refused**: it leads to the dependency root itself. -/
theorem directory_of_climbing :
    let place : Place := ⟨.subfolder "p" (.subfolder "node_modules" .empty .empty) .empty, "/p"⟩
    Search.outcome place (directory "/p" ⟨"foo/..", "/p"⟩ "foo/.." "/p") = .ok "/p/node_modules" ∧
      ¬ ∃ root, Path.fileName root = Layout.dependencyRoot ∧ IsBelow "/p/node_modules" root := by
  intro place
  refine ⟨by decide +kernel, ?_⟩
  rw [Path.exists_isBelow_iff (by decide +kernel) (by decide +kernel)]
  decide +kernel

end Library

end ModuleResolution
