import ModuleResolution.Proofs.Disk.Follow
import ModuleResolution.Proofs.Options.Lists
import ModuleResolution.Proofs.Path.Stem
import ModuleResolution.Proofs.Resolve.Retry

/-! # Where a probed path is found

The stems of an absolute normal path are a root, or one name behind the folder of the path or
behind the path itself (`mem_stems`). An extension without a slash only makes that name longer, so
a candidate stays in its folder. Its last name can still be anything, `..` included: what
rules this out is the disk, which holds no file where such a name leads (`Disk.isNormal_of_file`).
-/

set_option autoImplicit false

namespace ModuleResolution

/-! ## Stems and candidates of a normal path -/

namespace Rules

open ModuleResolution.Path (render IsNormal)

variable {rules : Rules} {anchor : Anchor} {names : List String}

theorem indexStem_render (h : IsNormal ⟨anchor, names⟩) :
    indexStem (render ⟨anchor, names⟩) = render ⟨anchor, names ++ [Layout.defaultEntry]⟩ := by
  rw [indexStem, Path.join_name _ ⟨by decide, by decide⟩ (by decide),
    Path.anchorOf_render h.legible, Path.read_render h]

/-- The folder of a path, or the path itself as a folder. -/
def IsNear (names folder : List String) : Prop := folder = names ∨ folder = names.dropLast

/-- **A stem of a path is a root, or one name in a folder near the path.** -/
theorem mem_stems (ha : anchor ≠ .relative) (h : IsNormal ⟨anchor, names⟩) {stem : String}
    (hstem : stem ∈ stems (render ⟨anchor, names⟩)) :
    (names = [] ∧ stem = render ⟨anchor, []⟩) ∨
      ∃ folder name, IsNear names folder ∧ '/' ∉ name.toList ∧
        stem = render ⟨anchor, folder ++ [name]⟩ := by
  rw [stems, List.mem_cons, List.mem_cons, List.mem_singleton] at hstem
  -- without a last name there is nothing to cut, and an extension becomes a name of its own
  rcases List.eq_nil_or_concat names with rfl | ⟨front, last, hnames⟩
  · rcases hstem with hstem | hstem | hstem
    · exact Or.inl ⟨rfl, hstem.trans (Path.clearExtension_root ha)⟩
    · exact Or.inl ⟨rfl, hstem⟩
    · refine Or.inr ⟨[], Layout.defaultEntry, Or.inl rfl, by decide, ?_⟩
      exact hstem.trans (indexStem_render h)
  · right
    rw [List.concat_eq_append] at hnames
    subst hnames
    rcases hstem with hstem | hstem | hstem
    · obtain ⟨cut, hslash, hcut⟩ := Path.clearExtension_render h
      exact ⟨front, cut, Or.inr (by simp), hslash, hstem.trans hcut⟩
    · exact ⟨front, last, Or.inr (by simp), (h.legible last (by simp)).2, hstem⟩
    · refine ⟨front ++ [last], Layout.defaultEntry, Or.inl rfl, by decide, ?_⟩
      exact hstem.trans (indexStem_render h)

/-- With an extension behind it, a stem is one name in a folder near the path. -/
theorem exists_render_append_of_mem_stems (ha : anchor ≠ .relative)
    (h : IsNormal ⟨anchor, names⟩) {stem ending : String}
    (hstem : stem ∈ stems (render ⟨anchor, names⟩)) (hending : '/' ∉ ending.toList) :
    ∃ folder name, IsNear names folder ∧ '/' ∉ name.toList ∧
      stem ++ ending = render ⟨anchor, folder ++ [name]⟩ := by
  rcases mem_stems ha h hstem with ⟨rfl, rfl⟩ | ⟨folder, name, hnear, hname, rfl⟩
  · exact ⟨[], ending, Or.inl rfl, hending, Path.render_root_append ha ending⟩
  · refine ⟨folder, name ++ ending, hnear, ?_, Path.render_append anchor folder name ending⟩
    rw [String.toList_append, List.mem_append, not_or]
    exact ⟨hname, hending⟩

theorem isNormal_of_isNear (ha : anchor ≠ .relative) (h : IsNormal ⟨anchor, names⟩)
    {folder : List String} (hnear : IsNear names folder) : IsNormal ⟨anchor, folder⟩ := by
  rcases hnear with rfl | rfl
  · exact h
  · exact h.of_subset ha (List.dropLast_subset _)

/-! ## Paths that are tried -/

variable {target found : String}

/-- A path that is tried is the one asked for, or ends with an extension that may be matched. -/
theorem eq_or_suffix_of_mem_probed (h : found ∈ rules.probed target) :
    found = target ∨ ∃ extension ∈ rules.allowed,
      extension ∉ rules.excluded ∧ extension.toList <:+ found.toList := by
  rcases mem_probed h with ⟨rfl, -⟩ | ⟨stem, -, hcandidate⟩
  · exact Or.inl rfl
  · obtain ⟨⟨extension, horder, rfl⟩, -⟩ := mem_candidates.mp hcandidate
    rw [probeOrder, List.mem_filter] at horder
    obtain ⟨hallowed, hexcluded⟩ := horder
    refine Or.inr ⟨extension, hallowed, ?_, ?_⟩
    · intro hmem
      simp [isExcluded, hmem] at hexcluded
    · rw [String.toList_append]
      exact List.suffix_append _ _

theorem isAbsolute_of_mem_stems (ha : anchor ≠ .relative) (h : IsNormal ⟨anchor, names⟩)
    {stem : String} (hstem : stem ∈ stems (render ⟨anchor, names⟩)) :
    Path.isAbsolute stem = true := by
  rcases mem_stems ha h hstem with ⟨-, rfl⟩ | ⟨folder, name, -, -, rfl⟩
  · exact Path.isAbsolute_render_of_ne_relative ha _
  · exact Path.isAbsolute_render_of_ne_relative ha _

theorem isAbsolute_of_mem_probed (habsolute : Path.isAbsolute target = true)
    (hnormal : Path.normalize target = target) (h : found ∈ rules.probed target) :
    Path.isAbsolute found = true := by
  rcases mem_probed h with ⟨rfl, -⟩ | ⟨stem, hstem, hcandidate⟩
  · exact habsolute
  · obtain ⟨⟨extension, -, rfl⟩, -⟩ := mem_candidates.mp hcandidate
    rw [← hnormal] at hstem
    have hroot := (Path.isAbsolute_iff target).mp habsolute
    exact Path.isAbsolute_append_text
      (isAbsolute_of_mem_stems hroot (Path.isNormal_read target) hstem) extension

/-- **A file that is found lies beside the path asked for or directly below it**, and its path
is normal, when no extension holds a slash. -/
theorem parent_of_mem_probed {place : Place} (habsolute : Path.isAbsolute target = true)
    (hnormal : Path.normalize target = target)
    (hslash : ∀ extension ∈ rules.allowed, '/' ∉ extension.toList)
    (h : found ∈ rules.probed target) (hfile : place.kind? found = some .file) :
    Path.normalize found = found ∧
      (Path.parent found = Path.parent target ∨ Path.parent found = target) := by
  rcases mem_probed h with ⟨rfl, -⟩ | ⟨stem, hstem, hcandidate⟩
  · exact ⟨hnormal, Or.inl rfl⟩
  obtain ⟨⟨extension, horder, rfl⟩, -⟩ := mem_candidates.mp hcandidate
  have ha : Path.anchorOf target ≠ .relative := (Path.isAbsolute_iff target).mp habsolute
  have htarget : IsNormal ⟨Path.anchorOf target, (Path.read target).names⟩ :=
    Path.isNormal_read target
  have hrender : render ⟨Path.anchorOf target, (Path.read target).names⟩ = target := hnormal
  rw [← hrender] at hstem
  obtain ⟨folder, name, hnear, hname, happend⟩ := exists_render_append_of_mem_stems ha htarget
    hstem (hslash extension (List.mem_filter.mp horder).1)
  rw [happend] at hfile ⊢
  -- no file is where a last name of dots leads
  have hfound : IsNormal ⟨Path.anchorOf target, folder ++ [name]⟩ :=
    Disk.isNormal_of_file ha (isNormal_of_isNear ha htarget hnear) hname hfile
  refine ⟨Path.normalize_render hfound, ?_⟩
  rw [Path.parent_of_isAbsolute (Path.isAbsolute_render_of_ne_relative ha _),
    Path.anchorOf_render hfound.legible, Path.read_render hfound, List.dropLast_concat]
  rcases hnear with rfl | rfl
  · exact Or.inr hrender
  · exact Or.inl (Path.parent_of_isAbsolute habsolute).symm

end Rules

end ModuleResolution
