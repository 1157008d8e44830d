import Mathlib.Logic.Function.Iterate
import ModuleResolution.Proofs.Path.Normal

/-! # Folders above a path

The lineage of a path is the path and the folders above it, without the root: the paths made of
its first names, at least one (`mem_lineage`). The folders above the parent are among them
(`lineage_parent_subset`), so what is not found from a folder upwards is not found from its parent
upwards either. Absolute paths stay absolute when they are joined with others and when their
parent is taken.

Going from parent to parent leads to a root, after as many steps as the path is deep
(`isRoot_iterate_parent`), and the lineage is what is passed on the way (`lineage_step`).
-/

set_option autoImplicit false

namespace ModuleResolution.Path

/-! ## Absolute paths and their last names -/

theorem isAbsolute_foldl_append {first : String} (h : isAbsolute first = true)
    (rest : List String) : isAbsolute (rest.foldl append first) = true := by
  induction rest generalizing first with
  | nil => exact h
  | cons next rest ih => exact ih (isAbsolute_append h next)

/-- Whatever is joined to an absolute path, the outcome is absolute. -/
theorem isAbsolute_join {first : String} (h : isAbsolute first = true) (rest : List String) :
    isAbsolute (join (first :: rest)) = true := by
  show isAbsolute (normalize (rest.foldl append first)) = true
  rw [isAbsolute_normalize]
  exact isAbsolute_foldl_append h rest

theorem isAbsolute_parent {text : String} (h : isAbsolute text = true) :
    isAbsolute (parent text) = true := by
  rw [parent_of_isAbsolute h]
  exact isAbsolute_render_of_ne_relative ((isAbsolute_iff text).mp h) _

@[simp] theorem fileName_normalize (text : String) : fileName (normalize text) = fileName text := by
  unfold fileName
  rw [read_normalize]

/-- The names of a path with a name put behind it. -/
theorem read_join_name (text : String) {name : String} (hname : IsLegible name)
    (hdots : name ≠ "..") :
    read (join [text, name]) = ⟨anchorOf text, (read text).names ++ [name]⟩ := by
  show read (normalize (append text name)) = _
  rw [read_normalize, read_append_name text hname hdots]

/-- A name that is put behind a path is its last name. -/
theorem fileName_append (text : String) {name : String} (hname : IsLegible name)
    (hdots : name ≠ "..") : fileName (append text name) = name :=
  fileName_of_names (congrArg Path.names (read_append_name text hname hdots))

theorem fileName_join {text name : String} (h : isAbsolute text = true) (hname : IsLegible name)
    (hdots : name ≠ "..") : fileName (join [text, name]) = name := by
  rw [fileName_of_isAbsolute (isAbsolute_join h [name]), read_join_name text hname hdots]
  exact List.getLastD_concat ..

/-- What is joined to an absolute path is joined to its normal form. -/
theorem join_normalize {text : String} (h : isAbsolute text = true) (name : String) :
    join [normalize text, name] = join [text, name] := by
  by_cases hname : isAbsolute name = true
  · show normalize (append (normalize text) name) = normalize (append text name)
    rw [append, if_pos hname, append, if_pos hname]
  · have hrelative : isAbsolute name = false := by simpa using hname
    have hnormal : isAbsolute (normalize text) = true := by rwa [isAbsolute_normalize]
    have hanchor : anchorOf (normalize text) = anchorOf text :=
      anchorOf_render (isNormal_read text).legible
    have hread : read (append (normalize text) name) = read (append text name) := by
      rw [read_append (ne_empty_of_isAbsolute hnormal) hrelative,
        read_append (ne_empty_of_isAbsolute h) hrelative, read_normalize, hanchor]
    exact congrArg render hread

/-- The normal form of an absolute text as seen from anywhere is its normal form. -/
theorem absoluteFrom_of_isAbsolute {text : String} (h : isAbsolute text = true)
    (cwd directory : String) : absoluteFrom cwd directory text = normalize text := by
  rw [absoluteFrom, if_pos h]

/-! ## The lineage -/

theorem mem_lineageOf {anchor : Anchor} {stack : List String} {folder : String} :
    folder ∈ lineageOf anchor stack ↔
      ∃ names ≠ [], names <+: stack.reverse ∧ folder = render ⟨anchor, names⟩ := by
  induction stack with
  | nil => simp +contextual [lineageOf]
  | cons name above ih =>
      rw [lineageOf, List.mem_cons, ih, List.reverse_cons]
      constructor
      · rintro (rfl | ⟨names, hne, hstart, rfl⟩)
        · exact ⟨above.reverse ++ [name], by simp, List.prefix_rfl, rfl⟩
        · exact ⟨names, hne, hstart.trans (List.prefix_append _ _), rfl⟩
      · rintro ⟨names, hne, hstart, rfl⟩
        rcases List.prefix_concat_iff.mp hstart with rfl | hstart
        · exact Or.inl rfl
        · exact Or.inr ⟨names, hne, hstart, rfl⟩

/-- **The folders of a lineage** are those of the first names of the path, at least one. -/
theorem mem_lineage {text folder : String} :
    folder ∈ lineage text ↔
      ∃ names ≠ [], names <+: (read text).names ∧ folder = render ⟨anchorOf text, names⟩ := by
  show folder ∈ lineageOf (anchorOf text) (read text).names.reverse ↔ _
  rw [mem_lineageOf, List.reverse_reverse]

@[simp] theorem lineage_normalize (text : String) : lineage (normalize text) = lineage text := by
  unfold lineage
  rw [read_normalize]

theorem isAbsolute_of_mem_lineage {text folder : String} (h : isAbsolute text = true)
    (hfolder : folder ∈ lineage text) : isAbsolute folder = true := by
  obtain ⟨names, -, -, rfl⟩ := mem_lineage.mp hfolder
  exact isAbsolute_render_of_ne_relative ((isAbsolute_iff text).mp h) names

/-- **Above the parent** there is only what is above the path, too. -/
theorem lineage_parent_subset {text : String} (h : isAbsolute text = true) :
    lineage (parent text) ⊆ lineage text := by
  have ha : anchorOf text ≠ .relative := (isAbsolute_iff text).mp h
  have hnormal : IsNormal ⟨anchorOf text, (read text).names.dropLast⟩ :=
    (isNormal_read text).of_subset ha (List.dropLast_subset _)
  intro folder hfolder
  obtain ⟨names, hne, hstart, rfl⟩ := mem_lineage.mp hfolder
  rw [parent_of_isAbsolute h, read_render hnormal] at hstart
  rw [parent_of_isAbsolute h, anchorOf_render hnormal.legible]
  exact mem_lineage.mpr ⟨names, hne, hstart.trans (List.dropLast_prefix _), rfl⟩

/-! ## Normal paths by their names -/

section

variable {text : String} {anchor : Anchor} {names above : List String}

/-- Names that are put behind an absolute path are read behind its names. -/
theorem read_foldl_append (h : isAbsolute text = true)
    (hnames : ∀ name ∈ names, IsLegible name ∧ name ≠ "..") :
    read (names.foldl append text) = ⟨anchorOf text, (read text).names ++ names⟩ := by
  induction names generalizing text with
  | nil =>
      rw [List.foldl_nil, List.append_nil]
      rfl
  | cons name rest ih =>
      obtain ⟨hname, hdots⟩ := hnames name List.mem_cons_self
      have hread := read_append_name text hname hdots
      have hanchor : anchorOf (append text name) = anchorOf text := congrArg Path.anchor hread
      rw [List.foldl_cons, ih (isAbsolute_append h name) fun other hother =>
        hnames other (List.mem_cons_of_mem _ hother), hanchor, hread]
      simp

/-- **Names put behind the path of a folder** are the names behind those of the folder. -/
theorem join_render (ha : anchor ≠ .relative) (hnormal : IsNormal ⟨anchor, above ++ names⟩) :
    join (render ⟨anchor, above⟩ :: names) = render ⟨anchor, above ++ names⟩ := by
  have habove : IsNormal ⟨anchor, above⟩ := hnormal.of_subset ha (List.subset_append_left ..)
  have hnames : ∀ name ∈ names, IsLegible name ∧ name ≠ ".." := fun name hname =>
    (isNormal_iff ha _).mp hnormal name (List.mem_append_right _ hname)
  have hread := read_foldl_append (isAbsolute_render_of_ne_relative ha above) hnames
  rw [anchorOf_render habove.legible, read_render habove] at hread
  show (read (names.foldl append _)).render = _
  rw [hread]

/-- The folder above a normal path that has a last name. -/
theorem parent_render (ha : anchor ≠ .relative) (hnormal : IsNormal ⟨anchor, names⟩) :
    parent (render ⟨anchor, names⟩) = render ⟨anchor, names.dropLast⟩ := by
  rw [parent_of_isAbsolute (isAbsolute_render_of_ne_relative ha names),
    anchorOf_render hnormal.legible, read_render hnormal]

/-- A normal path is a root when it has no names. -/
theorem isRoot_render_iff (ha : anchor ≠ .relative) (hnormal : IsNormal ⟨anchor, names⟩) :
    isRoot (render ⟨anchor, names⟩) = true ↔ names = [] := by
  rw [isRoot, beq_iff_eq, parent_render ha hnormal, normalize_render hnormal]
  constructor
  · intro h
    have hread := congrArg read h
    rw [read_render (hnormal.of_subset ha (List.dropLast_subset _)), read_render hnormal] at hread
    have hlength := congrArg (fun path : Path => path.names.length) hread
    rw [List.length_dropLast] at hlength
    exact List.eq_nil_of_length_eq_zero (by dsimp only at hlength; omega)
  · rintro rfl
    rfl

theorem isRoot_render_concat (ha : anchor ≠ .relative) {name : String}
    (hnormal : IsNormal ⟨anchor, above ++ [name]⟩) :
    isRoot (render ⟨anchor, above ++ [name]⟩) = false := by
  rw [← Bool.not_eq_true, isRoot_render_iff ha hnormal]
  simp

theorem fileName_render_concat (ha : anchor ≠ .relative) {name : String}
    (hnormal : IsNormal ⟨anchor, above ++ [name]⟩) :
    fileName (render ⟨anchor, above ++ [name]⟩) = name := by
  rw [fileName_of_isAbsolute (isAbsolute_render_of_ne_relative ha _), read_render hnormal]
  exact List.getLastD_concat ..

/-- **The first folder of a lineage that passes a test** is the furthest down of those that do. -/
theorem find?_lineageOf (test : String → Bool) (anchor : Anchor) (stack : List String) :
    ((lineageOf anchor stack).find? test = none ∧
      ∀ front ≠ [], front <+: stack.reverse → test (render ⟨anchor, front⟩) = false) ∨
    ∃ front ≠ [], front <+: stack.reverse ∧ test (render ⟨anchor, front⟩) = true ∧
      (∀ other, other <+: stack.reverse → front.length < other.length →
        test (render ⟨anchor, other⟩) = false) ∧
      (lineageOf anchor stack).find? test = some (render ⟨anchor, front⟩) := by
  -- the folders are the starts of the names, the longest one first
  induction stack with
  | nil =>
      refine Or.inl ⟨rfl, fun front hne hstart => ?_⟩
      exact absurd (List.prefix_nil.mp hstart) hne
  | cons name above ih =>
      rw [lineageOf, List.reverse_cons, List.find?_cons]
      cases htest : test (render ⟨anchor, above.reverse ++ [name]⟩) with
      | true =>
          refine Or.inr ⟨above.reverse ++ [name], by simp, List.prefix_rfl, htest, ?_, rfl⟩
          intro other hother hlength
          exact absurd hother.length_le (by omega)
      | false =>
          rcases ih with ⟨hnone, hall⟩ | ⟨front, hne, hstart, hpasses, hnearest, hfind⟩
          · refine Or.inl ⟨hnone, fun front hne hstart => ?_⟩
            rcases List.prefix_concat_iff.mp hstart with rfl | hstart
            · exact htest
            · exact hall front hne hstart
          · refine Or.inr ⟨front, hne, hstart.trans (List.prefix_append _ _), hpasses, ?_, hfind⟩
            intro other hother hlength
            rcases List.prefix_concat_iff.mp hother with rfl | hother
            · exact htest
            · exact hnearest other hother hlength

end

/-! ## Upwards, step by step -/

section

variable {text : String}

/-- How many names lead from its anchor to a path. -/
def depth (text : String) : Nat := (read text).names.length

theorem read_parent (h : isAbsolute text = true) :
    read (parent text) = ⟨anchorOf text, (read text).names.dropLast⟩ := by
  have ha : anchorOf text ≠ .relative := (isAbsolute_iff text).mp h
  rw [parent_of_isAbsolute h]
  exact read_render ((isNormal_read text).of_subset ha (List.dropLast_subset _))

/-- The folder above a name that is put behind an absolute path. -/
theorem parent_append {name : String} (h : isAbsolute text = true) (hname : IsLegible name)
    (hdots : name ≠ "..") : parent (append text name) = normalize text := by
  have hread := read_append_name text hname hdots
  have hanchor : anchorOf (append text name) = anchorOf text := congrArg Path.anchor hread
  rw [parent_of_isAbsolute (isAbsolute_append h name), hread, hanchor, List.dropLast_concat]
  rfl

theorem depth_parent (h : isAbsolute text = true) : depth (parent text) = depth text - 1 := by
  rw [depth, read_parent h]
  exact List.length_dropLast

theorem isRoot_iff_depth (h : isAbsolute text = true) : isRoot text = true ↔ depth text = 0 := by
  have ha : anchorOf text ≠ .relative := (isAbsolute_iff text).mp h
  have hroot : isRoot text = isRoot (normalize text) := by
    unfold isRoot parent
    rw [read_normalize, normalize_normalize]
  rw [hroot, depth, List.length_eq_zero_iff]
  exact isRoot_render_iff ha (isNormal_read text)

/-- **One step up**: the lineage of a folder that is no root is the folder and the lineage of its
parent. -/
theorem lineage_step (h : isAbsolute text = true) :
    lineage text = if isRoot text then [] else normalize text :: lineage (parent text) := by
  have hlineage : ∀ other : String, lineage other =
      lineageOf (read other).anchor (read other).names.reverse := fun _ => rfl
  rw [hlineage, hlineage, read_parent h]
  rcases List.eq_nil_or_concat (read text).names with hnames | ⟨front, name, hnames⟩
  · have hroot : isRoot text = true := by
      rw [isRoot_iff_depth h, depth, hnames]
      rfl
    rw [hnames, if_pos hroot]
    rfl
  · have hroot : ¬ isRoot text = true := by
      rw [isRoot_iff_depth h, depth, hnames]
      simp
    have htext : normalize text = render ⟨(read text).anchor, front ++ [name]⟩ := by
      rw [← List.concat_eq_append, ← hnames]
      rfl
    rw [hnames, if_neg hroot, List.concat_eq_append, List.reverse_concat, List.dropLast_concat,
      lineageOf, List.reverse_cons, List.reverse_reverse, ← htext]
    rfl

/-- Each step up takes a name off, as long as there is one. -/
theorem iterate_parent (h : isAbsolute text = true) (steps : Nat) :
    isAbsolute (parent^[steps] text) = true ∧ depth (parent^[steps] text) = depth text - steps := by
  induction steps with
  | zero => exact ⟨h, rfl⟩
  | succ steps ih =>
      obtain ⟨habsolute, hdepth⟩ := ih
      rw [Function.iterate_succ_apply', depth_parent habsolute, hdepth]
      exact ⟨isAbsolute_parent habsolute, by omega⟩

/-- **The ascent from a folder ends at a root**, after as many steps as the folder is deep. -/
theorem isRoot_iterate_parent (h : isAbsolute text = true) (steps : Nat) :
    isRoot (parent^[steps] text) = true ↔ depth text ≤ steps := by
  obtain ⟨habsolute, hdepth⟩ := iterate_parent h steps
  rw [isRoot_iff_depth habsolute, hdepth]
  omega

end

end ModuleResolution.Path
