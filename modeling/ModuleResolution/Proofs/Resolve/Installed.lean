import ModuleResolution.Proofs.Resolve.Walk

/-! # Below a dependency root

A path below a dependency root is read as the names above the root, the root and the names below
it (`Walk.LiesBelow`). The place of a library in its type package is made of the same names
(`Walk.sidecar?_of_liesBelow`), and so is its place in the next dependency root further up, which is
looked for in the folders above the one that holds the root (`Walk.nestedRoot_cases`).
-/

set_option autoImplicit false

namespace ModuleResolution.Walk

variable {place : Place} {cwd start : String} {anchor : Anchor} {above names : List String}

/-! ## Below a dependency root -/

/-- What has these names in the dependency root of a folder. -/
def inRoot (anchor : Anchor) (front names : List String) : String :=
  Path.render ⟨anchor, front ++ Layout.dependencyRoot :: names⟩

/-- A path is read as names above a dependency root, the root, and names below it, none of which
is a dependency root. -/
structure LiesBelow (cwd path : String) (anchor : Anchor) (above names : List String) : Prop where
  read_eq : Path.read (Path.absolute cwd path) =
    ⟨anchor, above ++ Layout.dependencyRoot :: names⟩
  innermost : Layout.dependencyRoot ∉ names
  ne_nil : names ≠ []

theorem LiesBelow.ne_relative (hcwd : Path.isAbsolute cwd = true)
    (h : LiesBelow cwd start anchor above names) : anchor ≠ .relative := by
  have ha : Path.anchorOf (Path.absolute cwd start) ≠ .relative :=
    (Path.isAbsolute_iff _).mp (Path.isAbsolute_absoluteFrom hcwd cwd start)
  have hanchor : Path.anchorOf (Path.absolute cwd start) = anchor :=
    congrArg Path.anchor h.read_eq
  rwa [hanchor] at ha

/-- What is made of the names of the path is normal. -/
theorem LiesBelow.isNormal (hcwd : Path.isAbsolute cwd = true)
    (h : LiesBelow cwd start anchor above names) {others : List String}
    (hothers : others ⊆ above ++ Layout.dependencyRoot :: names) :
    Path.IsNormal ⟨anchor, others⟩ := by
  have hnormal := Path.isNormal_read (Path.absolute cwd start)
  rw [h.read_eq] at hnormal
  exact hnormal.of_subset (h.ne_relative hcwd) hothers

theorem takeWhile_dropWhile (above : List String) (h : Layout.dependencyRoot ∉ names) :
    (above ++ Layout.dependencyRoot :: names).reverse.takeWhile (· != Layout.dependencyRoot) =
        names.reverse ∧
      (above ++ Layout.dependencyRoot :: names).reverse.dropWhile (· != Layout.dependencyRoot) =
        (above ++ [Layout.dependencyRoot]).reverse := by
  have hpasses : ∀ name ∈ names.reverse, (name != Layout.dependencyRoot) = true := by
    intro name hname
    rw [bne_iff_ne]
    rintro rfl
    exact h (List.mem_reverse.mp hname)
  have hsplit : (above ++ Layout.dependencyRoot :: names).reverse =
      names.reverse ++ (above ++ [Layout.dependencyRoot]).reverse := by simp
  rw [hsplit, List.takeWhile_append_of_pos hpasses, List.dropWhile_append_of_pos hpasses]
  simp

/-- **A path below a dependency root** is split at the innermost one. -/
theorem ofPath?_of_liesBelow (h : LiesBelow cwd start anchor above names) :
    Installed.ofPath? cwd start = some ⟨inRoot anchor above [], names⟩ := by
  obtain ⟨hbelow, habove⟩ := takeWhile_dropWhile above h.innermost
  have hne : names.reverse ≠ [] := by simpa using h.ne_nil
  unfold Installed.ofPath? Installed.ofStack?
  rw [h.read_eq]
  dsimp only
  rw [hbelow, habove]
  split
  · next _ hnil => exact absurd hnil hne
  · next hnil _ => simp at hnil
  · simp [inRoot]

/-- Names that hold a dependency root, at its innermost place. -/
theorem exists_innermost {whole : List String} (h : Layout.dependencyRoot ∈ whole) :
    ∃ above names, whole = above ++ Layout.dependencyRoot :: names ∧
      Layout.dependencyRoot ∉ names := by
  obtain ⟨below, above, hsplit, hbelow⟩ :=
    List.eq_append_cons_of_mem (List.mem_reverse.mpr h)
  refine ⟨above.reverse, below.reverse, ?_, by simpa using hbelow⟩
  rw [← List.reverse_reverse whole, hsplit]
  simp

/-- Only a path below a dependency root is split. -/
theorem exists_liesBelow_of_ofPath? {installed : Installed}
    (h : Installed.ofPath? cwd start = some installed) :
    ∃ anchor above names, LiesBelow cwd start anchor above names := by
  obtain ⟨⟨anchor, whole⟩, hread⟩ : ∃ path, Path.read (Path.absolute cwd start) = path := ⟨_, rfl⟩
  unfold Installed.ofPath? Installed.ofStack? at h
  rw [hread] at h
  dsimp only at h
  by_cases hmem : Layout.dependencyRoot ∈ whole
  · obtain ⟨above, names, rfl, hinnermost⟩ := exists_innermost hmem
    refine ⟨anchor, above, names, hread, hinnermost, ?_⟩
    -- the root itself is not split
    intro hnil
    rw [(takeWhile_dropWhile _ hinnermost).1, hnil] at h
    cases h
  · have hdrop : whole.reverse.dropWhile (· != Layout.dependencyRoot) = [] := by
      rw [List.dropWhile_eq_nil_iff]
      rintro name hname
      rw [bne_iff_ne]
      rintro rfl
      exact hmem (List.mem_reverse.mp hname)
    rw [hdrop] at h
    split at h
    · cases h
    · cases h
    · next hne => exact absurd rfl hne

/-! ## The folder of the type package -/

/-- The names below a dependency root, with the name of a library as that of its type package: of a
scope and a name in it is made one name. -/
def typePackage : List String → List String
  | scope :: name :: rest =>
    if scope.toList.head? = some '@' then
      (String.ofList (scope.toList.drop 1) ++ "__" ++ name) :: rest
    else scope :: name :: rest
  | names => names

theorem sidecarName_of_name {name : String} (h : '/' ∉ name.toList) :
    Specifier.sidecarName name = name := by
  unfold Specifier.sidecarName
  split
  · next rest hchars =>
      rw [hchars, List.mem_cons, not_or] at h
      rw [if_neg (by simpa using h.2)]
  · rfl

theorem sidecarName_of_scope {scope name : String} (hat : scope.toList.head? = some '@')
    (hscope : '/' ∉ scope.toList) :
    Specifier.sidecarName (Path.joinNames [scope, name]) =
      String.ofList (scope.toList.drop 1) ++ "__" ++ name := by
  obtain ⟨rest, hrest⟩ := List.head?_eq_some_iff.mp hat
  have hslash : ∀ c ∈ rest, (c != '/') = true := by
    intro c hc
    rw [bne_iff_ne]
    rintro rfl
    exact hscope (hrest ▸ List.mem_cons_of_mem _ hc)
  have hchars : (Path.joinNames [scope, name]).toList = '@' :: (rest ++ '/' :: name.toList) := by
    rw [Path.joinNames, String.intercalate_cons_cons, String.intercalate_singleton]
    simp [hrest]
  unfold Specifier.sidecarName
  rw [hchars]
  split
  · next tail heq =>
      obtain rfl := (List.cons.inj heq).2
      rw [if_pos (by simp), List.takeWhile_append_of_pos hslash,
        List.dropWhile_append_of_pos hslash, hrest, ← String.toList_inj]
      simp
  · next hother => exact absurd rfl (hother _)

/-- The name of a library's type package and what is behind it in the place of the library. -/
theorem sidecarName_library (root : String) (hnames : ∀ name ∈ names, '/' ∉ name.toList)
    (hne : names ≠ []) :
    Specifier.sidecarName (Installed.library ⟨root, names⟩) ::
      names.drop (Installed.nameLength ⟨root, names⟩) = typePackage names := by
  have hone : ∀ first rest, (∀ name ∈ first :: rest, '/' ∉ name.toList) →
      Specifier.sidecarName (Path.joinNames ((first :: rest).take 1)) :: (first :: rest).drop 1 =
        first :: rest := by
    intro first rest hnames
    rw [List.take_succ_cons, List.take_zero, Path.joinNames, String.intercalate_singleton,
      sidecarName_of_name (hnames first List.mem_cons_self)]
    rfl
  unfold Installed.library Installed.nameLength typePackage
  cases names with
  | nil => exact absurd rfl hne
  | cons scope behind =>
      cases behind with
      | nil => exact hone scope [] hnames
      | cons name rest =>
          dsimp only
          by_cases hat : scope.toList.head? = some '@'
          · rw [if_pos hat, if_pos hat]
            exact congrArg (· :: rest)
              (sidecarName_of_scope hat (hnames scope List.mem_cons_self))
          · rw [if_neg hat, if_neg hat]
            exact hone scope (name :: rest) hnames

/-- What is made of names that a path can hold are such names. -/
theorem isLegible_typePackage (h : ∀ name ∈ names, Path.IsLegible name ∧ name ≠ "..") :
    ∀ name ∈ typePackage names, Path.IsLegible name ∧ name ≠ ".." := by
  have hmade : ∀ scope name : String, '/' ∉ scope.toList → '/' ∉ name.toList →
      Path.IsLegible (String.ofList (scope.toList.drop 1) ++ "__" ++ name) ∧
        String.ofList (scope.toList.drop 1) ++ "__" ++ name ≠ ".." := by
    intro scope name hscope hname
    -- the underscores tell a made name from those that mean a folder
    have hunderscore : ∀ other : String, '_' ∉ other.toList →
        String.ofList (scope.toList.drop 1) ++ "__" ++ name ≠ other := by
      rintro other hother rfl
      exact hother (by simp)
    have hempty := hunderscore "" (by decide)
    have hdot := hunderscore "." (by decide)
    refine ⟨⟨?_, ?_⟩, hunderscore ".." (by decide)⟩
    · rw [Path.isName, Bool.and_eq_true, bne_iff_ne, bne_iff_ne]
      exact ⟨hempty, hdot⟩
    · have hdrop : '/' ∉ scope.toList.drop 1 := fun hmem => hscope (List.mem_of_mem_drop hmem)
      simpa [hname] using hdrop
  intro name hname
  unfold typePackage at hname
  split at hname
  · next scope next rest =>
      split at hname
      · rcases List.mem_cons.mp hname with rfl | hrest
        · exact hmade scope next (h scope (by simp)).1.2 (h next (by simp)).1.2
        · exact h name (by simp [hrest])
      · exact h name hname
  · exact h name hname

/-- The names of a type package beside a path make up a normal path. -/
theorem LiesBelow.isNormal_typePackage (hcwd : Path.isAbsolute cwd = true)
    (h : LiesBelow cwd start anchor above names) :
    Path.IsNormal ⟨anchor,
      above ++ Layout.dependencyRoot :: Layout.typesFolder :: typePackage names⟩ := by
  have ha : anchor ≠ .relative := h.ne_relative hcwd
  have hwhole := (Path.isNormal_iff ha _).mp (h.isNormal hcwd (List.Subset.refl _))
  have hbelow : ∀ name ∈ names, Path.IsLegible name ∧ name ≠ ".." :=
    fun name hname => hwhole name (by simp [hname])
  rw [Path.isNormal_iff ha]
  intro name hname
  rcases List.mem_append.mp hname with habove | hname
  · exact hwhole name (List.mem_append_left _ habove)
  · rcases List.mem_cons.mp hname with rfl | hname
    · exact hwhole _ (by simp)
    · rcases List.mem_cons.mp hname with rfl | hname
      · exact ⟨⟨by decide +kernel, by decide +kernel⟩, by decide +kernel⟩
      · exact isLegible_typePackage hbelow name hname

/-- The names below a dependency root, none of which can hold a slash. -/
theorem LiesBelow.slash_not_mem (hcwd : Path.isAbsolute cwd = true)
    (h : LiesBelow cwd start anchor above names) : ∀ name ∈ names, '/' ∉ name.toList := by
  have hwhole := (Path.isNormal_iff (h.ne_relative hcwd) _).mp
    (h.isNormal hcwd (List.Subset.refl _))
  exact fun name hname => (hwhole name (by simp [hname])).1.2

/-- **The place of a library in its type package**, unless the library is a type package. -/
theorem sidecar?_of_liesBelow (hcwd : Path.isAbsolute cwd = true)
    (h : LiesBelow cwd start anchor above names) :
    Installed.sidecar? ⟨inRoot anchor above [], names⟩ =
      if names.head? = some Layout.typesFolder then none
      else some (inRoot anchor above (Layout.typesFolder :: typePackage names)) := by
  have hnormal : Path.IsNormal ⟨anchor,
      (above ++ [Layout.dependencyRoot]) ++ Layout.typesFolder :: typePackage names⟩ := by
    rw [List.append_assoc]
    exact h.isNormal_typePackage hcwd
  unfold Installed.sidecar? inRoot
  rw [sidecarName_library _ (h.slash_not_mem hcwd) h.ne_nil]
  split
  · rfl
  · rw [Path.join_render (h.ne_relative hcwd) hnormal, List.append_assoc]
    rfl

/-! ## The next dependency root -/

/-- The folder of the dependency root that is nearest above the one in a folder. -/
structure IsNextRoot (place : Place) (anchor : Anchor) (above front : List String) : Prop where
  ne_nil : front ≠ []
  starts : front <+: above
  ne : front ≠ above
  present : (place.kind? (inRoot anchor front [])).isSome = true
  nearest : ∀ other, other <+: above → other ≠ above → front.length < other.length →
    place.kind? (inRoot anchor other []) = none

/-- The first names of a folder, but not all of them. -/
theorem prefix_dropLast_iff {front : List String} (hne : front ≠ []) :
    front <+: above.dropLast ↔ front <+: above ∧ front ≠ above := by
  rcases List.eq_nil_or_concat above with rfl | ⟨init, last, rfl⟩
  · simp [hne]
  · rw [List.concat_eq_append, List.dropLast_concat, List.prefix_concat_iff]
    constructor
    · intro h
      refine ⟨Or.inr h, ?_⟩
      rintro rfl
      exact absurd h.length_le (by simp)
    · rintro ⟨rfl | h, hall⟩
      · exact absurd rfl hall
      · exact h

/-- Names behind the dependency root of a folder above. -/
theorem join_inRoot (hcwd : Path.isAbsolute cwd = true)
    (h : LiesBelow cwd start anchor above names) {front : List String} (hfront : front <+: above) :
    Path.join [Path.render ⟨anchor, front⟩, Layout.dependencyRoot] = inRoot anchor front [] ∧
      Path.join (inRoot anchor front [] :: names) = inRoot anchor front names := by
  have ha : anchor ≠ .relative := h.ne_relative hcwd
  have hnormal : Path.IsNormal ⟨anchor, (front ++ [Layout.dependencyRoot]) ++ names⟩ := by
    refine h.isNormal hcwd fun name hname => ?_
    rcases List.mem_append.mp hname with hname | hname
    · rcases List.mem_append.mp hname with hname | hname
      · exact List.mem_append_left _ (hfront.subset hname)
      · rw [List.mem_singleton.mp hname]
        simp
    · exact List.mem_append_right _ (List.mem_cons_of_mem _ hname)
  constructor
  · exact Path.join_render ha (hnormal.of_subset ha (List.subset_append_left ..))
  · rw [inRoot, Path.join_render ha hnormal, List.append_assoc]
    rfl

/-- **The next dependency root is looked for in the folders above** that of the first one. -/
theorem nestedRoot_of_liesBelow (hcwd : Path.isAbsolute cwd = true)
    (h : LiesBelow cwd start anchor above names) :
    nestedRoot cwd ⟨inRoot anchor above [], names⟩ =
      (Lookup.firstPresent ((Path.lineageOf anchor above.dropLast.reverse).map fun folder =>
        Path.join [folder, Layout.dependencyRoot])).bind fun higher =>
          .done (higher.map fun root => Path.join (root :: names)) := by
  have ha : anchor ≠ .relative := h.ne_relative hcwd
  have hroot : Path.IsNormal ⟨anchor, above ++ [Layout.dependencyRoot]⟩ :=
    h.isNormal hcwd (by simp)
  have habove : Path.IsNormal ⟨anchor, above⟩ := h.isNormal hcwd (List.subset_append_left ..)
  have hfront : Path.IsNormal ⟨anchor, above.dropLast⟩ :=
    habove.of_subset ha (List.dropLast_subset _)
  unfold nestedRoot inRoot
  rw [Path.parent_render ha hroot, List.dropLast_concat]
  dsimp only
  split
  · next hisRoot =>
      rw [(Path.isRoot_render_iff ha habove).mp hisRoot]
      rfl
  · rw [nearest, places, Path.parent_render ha habove, Path.absolute,
      Path.absoluteFrom_of_isAbsolute (Path.isAbsolute_render_of_ne_relative ha _),
      Path.normalize_render hfront, Path.lineage, Path.read_render hfront]

/-- **The place of a library in the next dependency root**, if there is one. -/
theorem nestedRoot_cases (hcwd : Path.isAbsolute place.cwd = true)
    (h : LiesBelow place.cwd start anchor above names) :
    let nested := (nestedRoot place.cwd ⟨inRoot anchor above [], names⟩).outcome place
    (nested = none ∧ ∀ front ≠ [], front <+: above → front ≠ above →
      place.kind? (inRoot anchor front []) = none) ∨
    ∃ front, IsNextRoot place anchor above front ∧ nested = some (inRoot anchor front names) := by
  intro nested
  have hnested : nested = ((Path.lineageOf anchor above.dropLast.reverse).find? fun folder =>
      (place.kind? (Path.join [folder, Layout.dependencyRoot])).isSome).map fun folder =>
        Path.join (Path.join [folder, Layout.dependencyRoot] :: names) := by
    show (nestedRoot place.cwd _).outcome place = _
    rw [nestedRoot_of_liesBelow hcwd h, Lookup.outcome_bind, Lookup.outcome_done,
      Lookup.firstPresent, Lookup.outcome_first, List.find?_map, Option.map_map]
    rfl
  have hstarts : ∀ {front : List String}, front <+: above.dropLast.reverse.reverse →
      front <+: above := by
    intro front hfront
    rw [List.reverse_reverse] at hfront
    exact hfront.trans (List.dropLast_prefix _)
  -- the roots are tried from the furthest down, so the first one found is the next one
  rcases Path.find?_lineageOf
      (fun folder => (place.kind? (Path.join [folder, Layout.dependencyRoot])).isSome) anchor
      above.dropLast.reverse with ⟨hnone, hall⟩ | ⟨front, hne, hstart, hpasses, hnearest, hfind⟩
  · refine Or.inl ⟨by rw [hnested, hnone]; rfl, fun front hne hstart hother => ?_⟩
    have hmissing := hall front hne
      (by rw [List.reverse_reverse]; exact (prefix_dropLast_iff hne).mpr ⟨hstart, hother⟩)
    rw [(join_inRoot hcwd h hstart).1] at hmissing
    simpa using hmissing
  · have habove := hstarts hstart
    obtain ⟨hroot, hplace⟩ := join_inRoot hcwd h habove
    refine Or.inr ⟨front, ⟨hne, habove, ?_, ?_, ?_⟩, ?_⟩
    · rw [List.reverse_reverse] at hstart
      exact ((prefix_dropLast_iff hne).mp hstart).2
    · rwa [hroot] at hpasses
    · intro other hother hall hlength
      have hother' : other ≠ [] := by
        rintro rfl
        simp at hlength
      have hmissing := hnearest other
        (by rw [List.reverse_reverse]; exact (prefix_dropLast_iff hother').mpr ⟨hother, hall⟩) hlength
      rw [(join_inRoot hcwd h hother).1] at hmissing
      simpa using hmissing
    · rw [hnested, hfind, Option.map_some, hroot, hplace]

/-- A search over paths only asks for what they lead to. -/
theorem mem_questions_first {test : Option Kind → Bool} {paths : List String} {question : Question}
    (h : question ∈ (Lookup.first test paths).questions place) :
    ∃ path ∈ paths, question = .kind path := by
  induction paths with
  | nil => cases h
  | cons path rest ih =>
      rw [Lookup.first, Lookup.questions] at h
      rcases List.mem_cons.mp h with rfl | h
      · exact ⟨path, List.mem_cons_self, rfl⟩
      · split at h
        · cases h
        · obtain ⟨other, hother, rfl⟩ := ih h
          exact ⟨other, List.mem_cons_of_mem _ hother, rfl⟩

/-- **Looking for the next dependency root** one only asks for those of the folders above. -/
theorem mem_questions_nestedRoot (hcwd : Path.isAbsolute place.cwd = true)
    (h : LiesBelow place.cwd start anchor above names) {question : Question}
    (hquestion : question ∈
      (nestedRoot place.cwd ⟨inRoot anchor above [], names⟩).questions place) :
    ∃ front ≠ [], front <+: above ∧ front ≠ above ∧ question = .kind (inRoot anchor front []) := by
  rw [nestedRoot_of_liesBelow hcwd h, Lookup.questions_bind, Lookup.questions_done,
    List.append_nil] at hquestion
  obtain ⟨path, hpath, rfl⟩ := mem_questions_first hquestion
  obtain ⟨folder, hfolder, rfl⟩ := List.mem_map.mp hpath
  obtain ⟨front, hne, hstart, rfl⟩ := Path.mem_lineageOf.mp hfolder
  rw [List.reverse_reverse] at hstart
  obtain ⟨habove, hall⟩ := (prefix_dropLast_iff hne).mp hstart
  rw [(join_inRoot hcwd h habove).1]
  exact ⟨front, hne, habove, hall, rfl⟩

end ModuleResolution.Walk
