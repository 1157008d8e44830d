import ModuleResolution.Proofs.Path.Climb
import ModuleResolution.Proofs.Resolve.Installed

/-! # Where the folders that stand for a missing one lie

A path is split at its innermost dependency root. Going up from it name by name, until a dependency
root or a root is reached, comes to the same (`Walk.ascends_iff`), and there is a split exactly when
the innermost dependency root has something below it (`Walk.isSome_ofPath?_iff`).

The folders that are looked in instead are split again: the one of the type package at the same
dependency root, the one in the next dependency root at that one, with the same names below it
(`Walk.escalation_wellPlaced`). So looking elsewhere changes nothing but what it is meant to.
-/

set_option autoImplicit false

namespace ModuleResolution.Walk

variable {place : Place} {cwd start : String} {anchor : Anchor} {above names : List String}

/-! ## Going up to the innermost dependency root -/

/-- Going up from a folder, with the names passed on the way, comes to an outcome. -/
inductive Ascends : String → List String → Option Installed → Prop where
  /-- There is no dependency root on the way. -/
  | top {current : String} {below : List String} (hroot : Path.isRoot current = true) :
      Ascends current below none
  /-- A dependency root counts when names were passed before it. -/
  | found {current : String} {below : List String} (hroot : Path.isRoot current = false)
      (hname : Path.fileName current = Layout.dependencyRoot) :
      Ascends current below (if below = [] then none else some ⟨current, below⟩)
  /-- Any other folder is passed. -/
  | up {current : String} {below : List String} {outcome : Option Installed}
      (hroot : Path.isRoot current = false)
      (hname : Path.fileName current ≠ Layout.dependencyRoot)
      (hrest : Ascends (Path.parent current) (Path.fileName current :: below) outcome) :
      Ascends current below outcome

/-- There is one outcome. -/
theorem Ascends.unique {current : String} {below : List String} {first second : Option Installed}
    (hfirst : Ascends current below first) (hsecond : Ascends current below second) :
    first = second := by
  induction hfirst with
  | top hroot =>
      cases hsecond with
      | top => rfl
      | found hother => exact absurd hroot (by simp [hother])
      | up hother => exact absurd hroot (by simp [hother])
  | found hroot hname =>
      cases hsecond with
      | top hother => exact absurd hother (by simp [hroot])
      | found => rfl
      | up _ hother => exact absurd hname hother
  | up hroot hname _ ih =>
      cases hsecond with
      | top hother => exact absurd hother (by simp [hroot])
      | found _ hother => exact absurd hother hname
      | up _ _ hrest => exact ih hrest

/-- Names that are no dependency roots are passed. -/
theorem Ascends.append (ha : anchor ≠ .relative) {passed below : List String}
    {outcome : Option Installed} (hnormal : Path.IsNormal ⟨anchor, above ++ passed⟩)
    (hpassed : Layout.dependencyRoot ∉ passed)
    (h : Ascends (Path.render ⟨anchor, above⟩) (passed ++ below) outcome) :
    Ascends (Path.render ⟨anchor, above ++ passed⟩) below outcome := by
  -- the last name is passed first
  induction passed using List.reverseRecOn generalizing below with
  | nil => simpa using h
  | append_singleton front name ih =>
      rw [← List.append_assoc] at hnormal ⊢
      have hfront : Path.IsNormal ⟨anchor, above ++ front⟩ :=
        hnormal.of_subset ha (List.subset_append_left ..)
      have hname : Path.fileName (Path.render ⟨anchor, above ++ front ++ [name]⟩) = name :=
        Path.fileName_render_concat ha hnormal
      refine .up (Path.isRoot_render_concat ha hnormal) ?_ ?_
      · rw [hname]
        rintro rfl
        exact hpassed (by simp)
      · rw [hname, Path.parent_render ha hnormal, List.dropLast_concat]
        refine ih hfront (fun hmem => hpassed (List.mem_append_left _ hmem)) ?_
        simpa using h

/-! ## When there is a split -/

/-- The innermost of some names is no dependency root when there is one below it. -/
theorem getLast?_ne_iff (h : Layout.dependencyRoot ∉ names) :
    (above ++ Layout.dependencyRoot :: names).getLast? ≠ some Layout.dependencyRoot ↔
      names ≠ [] := by
  rw [List.getLast?_append_of_ne_nil _ (by simp)]
  rcases List.eq_nil_or_concat names with rfl | ⟨front, last, rfl⟩
  · simp
  · rw [List.concat_eq_append] at h ⊢
    have hlast : last ≠ Layout.dependencyRoot := by
      rintro rfl
      exact h (by simp)
    rw [← List.cons_append, List.getLast?_concat]
    simpa using hlast

/-- **There is a split** when the innermost dependency root has something below it. -/
theorem isSome_ofPath?_iff (cwd path : String) :
    (Installed.ofPath? cwd path).isSome = true ↔
      Layout.dependencyRoot ∈ (Path.read (Path.absolute cwd path)).names ∧
      (Path.read (Path.absolute cwd path)).names.getLast? ≠ some Layout.dependencyRoot := by
  constructor
  · intro h
    obtain ⟨installed, hinstalled⟩ := Option.isSome_iff_exists.mp h
    obtain ⟨anchor, above, names, hbelow⟩ := exists_liesBelow_of_ofPath? hinstalled
    rw [hbelow.read_eq]
    exact ⟨by simp, (getLast?_ne_iff hbelow.innermost).mpr hbelow.ne_nil⟩
  · rintro ⟨hmem, hlast⟩
    obtain ⟨above, names, hwhole, hinnermost⟩ := exists_innermost hmem
    rw [hwhole, getLast?_ne_iff hinnermost] at hlast
    have hbelow : LiesBelow cwd path (Path.anchorOf (Path.absolute cwd path)) above names :=
      { read_eq := by rw [← hwhole]; rfl
        innermost := hinnermost
        ne_nil := hlast }
    rw [ofPath?_of_liesBelow hbelow]
    rfl

/-- **Going up comes to the split**, from every path. -/
theorem ascends_ofPath? (hcwd : Path.isAbsolute cwd = true) (path : String) :
    Ascends (Path.absolute cwd path) [] (Installed.ofPath? cwd path) := by
  obtain ⟨⟨anchor, whole⟩, hread⟩ : ∃ read, Path.read (Path.absolute cwd path) = read := ⟨_, rfl⟩
  have ha : anchor ≠ .relative := by
    have hanchor : Path.anchorOf (Path.absolute cwd path) = anchor := congrArg Path.anchor hread
    rw [← hanchor]
    exact (Path.isAbsolute_iff _).mp (Path.isAbsolute_absoluteFrom hcwd cwd path)
  have hnormal : Path.IsNormal ⟨anchor, whole⟩ := hread ▸ Path.isNormal_read _
  have habsolute : Path.absolute cwd path = Path.render ⟨anchor, whole⟩ := by
    rw [← hread]
    exact (Path.normalize_absoluteFrom cwd cwd path).symm
  have hsome := isSome_ofPath?_iff cwd path
  rw [hread] at hsome
  rw [habsolute]
  by_cases hmem : Layout.dependencyRoot ∈ whole
  · obtain ⟨above, names, rfl, hinnermost⟩ := exists_innermost hmem
    have hroot : Path.IsNormal ⟨anchor, above ++ [Layout.dependencyRoot]⟩ :=
      hnormal.of_subset ha (by simp)
    -- the names below are passed, then the dependency root is found
    have hfound : Ascends (Path.render ⟨anchor, above ++ [Layout.dependencyRoot]⟩) names
        (if names = [] then none
          else some ⟨Path.render ⟨anchor, above ++ [Layout.dependencyRoot]⟩, names⟩) :=
      .found (Path.isRoot_render_concat ha hroot) (Path.fileName_render_concat ha hroot)
    have houtcome : Installed.ofPath? cwd path = if names = [] then none
        else some ⟨Path.render ⟨anchor, above ++ [Layout.dependencyRoot]⟩, names⟩ := by
      split
      · next hnil =>
          rw [← Option.not_isSome_iff_eq_none, hsome, getLast?_ne_iff hinnermost]
          exact fun h => h.2 hnil
      · next hne => exact ofPath?_of_liesBelow ⟨hread, hinnermost, hne⟩
    rw [← List.singleton_append, ← List.append_assoc] at hnormal ⊢
    rw [houtcome]
    exact Ascends.append ha hnormal hinnermost (by simpa using hfound)
  · have houtcome : Installed.ofPath? cwd path = none := by
      rw [← Option.not_isSome_iff_eq_none, hsome]
      exact fun h => hmem h.1
    have hempty : Path.IsNormal ⟨anchor, []⟩ := hnormal.of_subset ha (List.nil_subset _)
    have htop : Ascends (Path.render ⟨anchor, []⟩) (whole ++ []) none :=
      .top ((Path.isRoot_render_iff ha hempty).mpr rfl)
    rw [houtcome]
    exact Ascends.append ha (by simpa using hnormal) hmem htop

theorem ascends_iff (hcwd : Path.isAbsolute cwd = true) (path : String)
    (outcome : Option Installed) :
    Ascends (Path.absolute cwd path) [] outcome ↔ outcome = Installed.ofPath? cwd path :=
  ⟨fun h => h.unique (ascends_ofPath? hcwd path), fun h => h ▸ ascends_ofPath? hcwd path⟩

/-! ## What is put below a dependency root -/

/-- What has names in the dependency root of a folder lies below it. -/
theorem liesBelow_inRoot (ha : anchor ≠ .relative)
    (hnormal : Path.IsNormal ⟨anchor, above ++ Layout.dependencyRoot :: names⟩)
    (hinnermost : Layout.dependencyRoot ∉ names) (hne : names ≠ []) :
    LiesBelow cwd (inRoot anchor above names) anchor above names where
  read_eq := by
    rw [Path.absolute, inRoot,
      Path.absoluteFrom_of_isAbsolute (Path.isAbsolute_render_of_ne_relative ha _),
      Path.normalize_render hnormal, Path.read_render hnormal]
  innermost := hinnermost
  ne_nil := hne

/-- The name of a type package is no dependency root. -/
theorem dependencyRoot_not_mem_typePackage (h : Layout.dependencyRoot ∉ names) :
    Layout.dependencyRoot ∉ typePackage names := by
  unfold typePackage
  split
  · next scope name rest =>
      split
      · rw [List.mem_cons, not_or]
        refine ⟨fun hmade => ?_, fun hmem => h (by simp [hmem])⟩
        -- a name made of a scope and another has two underscores side by side
        have hinfix : ['_', '_'] <:+: Layout.dependencyRoot.toList := by
          rw [hmade]
          exact ⟨scope.toList.drop 1, name.toList, by simp⟩
        exact absurd hinfix (by decide +kernel)
      · exact h
  · exact h

/-- The name of a library is made of names that are there. -/
theorem nameLength_le (root : String) (hne : names ≠ []) :
    Installed.nameLength ⟨root, names⟩ ≤ names.length := by
  unfold Installed.nameLength
  match names, hne with
  | [_], _ => exact Nat.le_refl 1
  | first :: second :: rest, _ =>
      dsimp only
      split
      · simp
      · simp

theorem fileName_inRoot (ha : anchor ≠ .relative)
    (hnormal : Path.IsNormal ⟨anchor, above ++ [Layout.dependencyRoot]⟩) :
    Path.fileName (inRoot anchor above []) = Layout.dependencyRoot :=
  Path.fileName_render_concat ha hnormal

theorem parent_inRoot (ha : anchor ≠ .relative)
    (hnormal : Path.IsNormal ⟨anchor, above ++ [Layout.dependencyRoot]⟩) :
    Path.parent (inRoot anchor above []) = Path.render ⟨anchor, above⟩ := by
  rw [inRoot, Path.parent_render ha hnormal, List.dropLast_concat]

/-! ## What is looked in instead -/

/-- The folders that stand for a missing one are well placed: they are split again, and with the
same names below the dependency root, or those of the type package. -/
structure WellPlaced (place : Place) (path : String) (installed : Installed) : Prop where
  join_eq : Path.join (installed.root :: installed.names) = Path.absolute place.cwd path
  fileName_root : Path.fileName installed.root = Layout.dependencyRoot
  ne_nil : installed.names ≠ []
  innermost : Layout.dependencyRoot ∉ installed.names
  /-- There are as many names as the name of the library is made of. -/
  nameLength_le : installed.nameLength ≤ installed.names.length
  /-- The type package has the name of the library, or one that is made of its scope and name. -/
  typePackage_eq : Specifier.sidecarName installed.library ::
    installed.names.drop installed.nameLength = typePackage installed.names
  /-- Only a type package has no other one to stand for it. -/
  isSome_sidecar? : installed.sidecar?.isSome = true ↔
    installed.names.head? ≠ some Layout.typesFolder
  /-- The folder of the type package lies in the folder of all of them, at the same root. -/
  sidecar : ∀ target, installed.sidecar? = some target →
    Installed.ofPath? place.cwd target = some ⟨installed.root, Layout.typesFolder ::
        Specifier.sidecarName installed.library :: installed.names.drop installed.nameLength⟩ ∧
      Path.IsBelow target (Path.join [installed.root, Layout.typesFolder])
  /-- The folder in another dependency root has the same names, and that root is there, in a
  folder strictly above. -/
  nested : ∀ target, (nestedRoot place.cwd installed).outcome place = some target →
    ∃ root, Installed.ofPath? place.cwd target = some ⟨root, installed.names⟩ ∧
      (place.kind? root).isSome = true ∧ root ≠ installed.root ∧
      Path.IsBelow (Path.parent installed.root) (Path.parent root)

/-- **The folder of the type package** is at the same dependency root. -/
theorem sidecar_wellPlaced (hcwd : Path.isAbsolute cwd = true)
    (h : LiesBelow cwd start anchor above names) {target : String}
    (htarget : Installed.sidecar? ⟨inRoot anchor above [], names⟩ = some target) :
    Installed.ofPath? cwd target =
        some ⟨inRoot anchor above [], Layout.typesFolder :: typePackage names⟩ ∧
      Path.IsBelow target (Path.join [inRoot anchor above [], Layout.typesFolder]) := by
  have ha : anchor ≠ .relative := h.ne_relative hcwd
  have hnormal := h.isNormal_typePackage hcwd
  rw [sidecar?_of_liesBelow hcwd h] at htarget
  split at htarget
  · cases htarget
  · obtain rfl := Option.some.inj htarget
    have hmem : Layout.dependencyRoot ∉ Layout.typesFolder :: typePackage names := by
      rw [List.mem_cons, not_or]
      exact ⟨by decide +kernel, dependencyRoot_not_mem_typePackage h.innermost⟩
    have hne : typePackage names ≠ [] := by
      rw [← sidecarName_library (inRoot anchor above []) (h.slash_not_mem hcwd) h.ne_nil]
      exact List.cons_ne_nil _ _
    -- no dependency root is among the new names, so the split of the new path is at the same one
    constructor
    · exact ofPath?_of_liesBelow (liesBelow_inRoot ha hnormal hmem (by simp))
    · have hsplit : above ++ Layout.dependencyRoot :: Layout.typesFolder :: typePackage names =
          ((above ++ [Layout.dependencyRoot]) ++ [Layout.typesFolder]) ++ typePackage names := by
        simp
      rw [hsplit] at hnormal
      have hfolder := hnormal.of_subset ha (List.subset_append_left ..)
      rw [inRoot, inRoot, Path.join_render ha hfolder, hsplit]
      exact Path.isBelow_render ha hnormal hne

/-- **The folder in the next dependency root** has the same names below it. -/
theorem nested_wellPlaced (hcwd : Path.isAbsolute place.cwd = true)
    (h : LiesBelow place.cwd start anchor above names) {target : String}
    (htarget : (nestedRoot place.cwd ⟨inRoot anchor above [], names⟩).outcome place =
      some target) :
    ∃ root, Installed.ofPath? place.cwd target = some ⟨root, names⟩ ∧
      (place.kind? root).isSome = true ∧ root ≠ inRoot anchor above [] ∧
      Path.IsBelow (Path.parent (inRoot anchor above [])) (Path.parent root) := by
  have ha : anchor ≠ .relative := h.ne_relative hcwd
  have habove : Path.IsNormal ⟨anchor, above ++ [Layout.dependencyRoot]⟩ :=
    h.isNormal hcwd (by simp)
  rcases nestedRoot_cases hcwd h with ⟨hnone, -⟩ | ⟨front, hnext, hsome⟩
  · rw [hnone] at htarget
    cases htarget
  · obtain rfl := Option.some.inj (hsome.symm.trans htarget)
    obtain ⟨more, rfl⟩ := hnext.starts
    have hmore : more ≠ [] := by
      rintro rfl
      exact hnext.ne (by simp)
    have hnormal : Path.IsNormal ⟨anchor, front ++ Layout.dependencyRoot :: names⟩ :=
      h.isNormal hcwd (List.append_subset.mpr ⟨by simp, by simp⟩)
    have hroot : Path.IsNormal ⟨anchor, front ++ [Layout.dependencyRoot]⟩ :=
      hnormal.of_subset ha (by simp)
    have hhigher : Path.IsBelow (Path.parent (inRoot anchor (front ++ more) []))
        (Path.parent (inRoot anchor front [])) := by
      rw [parent_inRoot ha habove, parent_inRoot ha hroot]
      exact Path.isBelow_render ha (habove.of_subset ha (List.subset_append_left ..)) hmore
    refine ⟨inRoot anchor front [], ?_, hnext.present, ?_, hhigher⟩
    · exact ofPath?_of_liesBelow (liesBelow_inRoot ha hnormal h.innermost h.ne_nil)
    · -- no folder lies below itself
      intro hsame
      rw [hsame] at hhigher
      exact Path.not_isBelow_self _ hhigher

/-- **The folders that stand for a missing one are well placed.** In a current directory that is
absolute, going up from any path comes to its split, which is there exactly when the innermost
dependency root on the way has something below it; and wherever a path is split, it is made of the
parts of the split, and what is looked in instead has the place it is meant to have. -/
theorem escalation_wellPlaced (place : Place) (hcwd : Path.isAbsolute place.cwd = true)
    (path : String) :
    let names := (Path.read (Path.absolute place.cwd path)).names
    let split := Installed.ofPath? place.cwd path
    (∀ outcome, Ascends (Path.absolute place.cwd path) [] outcome ↔ outcome = split) ∧
      (split.isSome = true ↔
        Layout.dependencyRoot ∈ names ∧ names.getLast? ≠ some Layout.dependencyRoot) ∧
      ∀ installed, split = some installed → WellPlaced place path installed := by
  intro names split
  refine ⟨ascends_iff hcwd path, isSome_ofPath?_iff place.cwd path, ?_⟩
  -- whatever is split is taken apart into its names, and then each law is one about names
  intro installed hinstalled
  obtain ⟨anchor, above, below, h⟩ := exists_liesBelow_of_ofPath? hinstalled
  obtain rfl := Option.some.inj ((ofPath?_of_liesBelow h).symm.trans hinstalled)
  have ha : anchor ≠ .relative := h.ne_relative hcwd
  have hroot : Path.IsNormal ⟨anchor, above ++ [Layout.dependencyRoot]⟩ :=
    h.isNormal hcwd (by simp)
  have habsolute : Path.absolute place.cwd path = inRoot anchor above below := by
    rw [inRoot, ← h.read_eq]
    exact (Path.normalize_absoluteFrom place.cwd place.cwd path).symm
  exact
    { join_eq := by rw [habsolute]; exact (join_inRoot hcwd h List.prefix_rfl).2
      fileName_root := fileName_inRoot ha hroot
      ne_nil := h.ne_nil
      innermost := h.innermost
      nameLength_le := nameLength_le _ h.ne_nil
      typePackage_eq := sidecarName_library _ (h.slash_not_mem hcwd) h.ne_nil
      isSome_sidecar? := by
        rw [sidecar?_of_liesBelow hcwd h]
        split
        · next htypes => exact iff_of_false Bool.false_ne_true (not_not_intro htypes)
        · next htypes => exact iff_of_true rfl htypes
      sidecar := by
        intro target htarget
        rw [sidecarName_library _ (h.slash_not_mem hcwd) h.ne_nil]
        exact sidecar_wellPlaced hcwd h htarget
      nested := fun target htarget => nested_wellPlaced hcwd h htarget }

/-- A folder of a scoped library, in a dependency root below another one. -/
theorem escalation_wellPlaced_scoped :
    let place : Place := ⟨.subfolder "p" (.subfolder "node_modules" .empty .empty) .empty, "/p"⟩
    let start := "node_modules/q/node_modules/@s/n/lib"
    let installed : Installed := ⟨"/p/node_modules/q/node_modules", ["@s", "n", "lib"]⟩
    Ascends (Path.absolute "/p" start) [] (some installed) ∧
      Installed.ofPath? "/p" "/p/node_modules/q/node_modules/@types/s__n/lib" =
        some ⟨"/p/node_modules/q/node_modules", ["@types", "s__n", "lib"]⟩ ∧
      ∃ root, Installed.ofPath? "/p" "/p/node_modules/@s/n/lib" = some ⟨root, ["@s", "n", "lib"]⟩ ∧
        (place.kind? root).isSome = true ∧ root ≠ "/p/node_modules/q/node_modules" ∧
        Path.IsBelow "/p/node_modules/q" (Path.parent root) := by
  intro place start installed
  have hsplit : some installed = Installed.ofPath? "/p" start := by decide +kernel
  obtain ⟨hascends, -, hplaced⟩ := escalation_wellPlaced place (by decide +kernel) start
  have hwell : WellPlaced place start installed := hplaced installed hsplit.symm
  have hparent : Path.parent installed.root = "/p/node_modules/q" := by decide +kernel
  refine ⟨(hascends _).mpr hsplit, ?_, ?_⟩
  · exact (hwell.sidecar "/p/node_modules/q/node_modules/@types/s__n/lib"
      (by decide +kernel)).1.trans (by decide +kernel)
  · rw [← hparent]
    exact hwell.nested "/p/node_modules/@s/n/lib" (by decide +kernel)

end ModuleResolution.Walk
