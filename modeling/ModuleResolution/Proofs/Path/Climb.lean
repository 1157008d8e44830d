import Mathlib.Data.List.DropRight
import ModuleResolution.Proofs.Path.Normal

/-! # Climbing and descending

The normal form of a relative text first climbs, by a number of `..`, and then descends along
names (`climb_descent`). Behind an absolute path it takes as many names off the end of
that path as it climbs, and adds the names along which it descends (`names_read_append`). So it
leads strictly below the path when it does not climb and descends at all (`IsInner`); when it
climbs, it can only come back by a descent along the names that it has left
(`isBelow_append_iff`).
-/

set_option autoImplicit false

namespace ModuleResolution.Path

/-! ## Pushing relative names on a path -/

theorem push_of_ne {name : String} (h : name ≠ "..") (anchor : Anchor) (stack : List String) :
    push anchor stack name = name :: stack := by
  cases stack <;> simp [push, h]

/-- A relative stack, innermost name first: the names of the descent on those of the climb. -/
def descended (inner : List String) (climb : Nat) : List String :=
  inner ++ List.replicate climb ".."

/-- **One push does the same to a relative stack and to an absolute one** that lost as many names
as the relative one climbs. -/
theorem push_descended {anchor : Anchor} (ha : anchor ≠ .relative) {stack inner : List String}
    (hstack : ".." ∉ stack) (hinner : ".." ∉ inner) (climb : Nat) (name : String) :
    ∃ inner' climb', ".." ∉ inner' ∧
      push .relative (descended inner climb) name = descended inner' climb' ∧
      push anchor (inner ++ stack.drop climb) name = inner' ++ stack.drop climb' := by
  by_cases hname : name = ".."
  · subst hname
    cases inner with
    | nil =>
        -- nothing to take back: the relative stack climbs once more
        refine ⟨[], climb + 1, by simp, ?_, ?_⟩
        · cases climb <;> simp [descended, push, List.replicate_succ]
        · rw [List.nil_append, List.nil_append, ← List.drop_drop]
          cases hdrop : stack.drop climb with
          | nil => simp [push, ha]
          | cons top below =>
              have hmem : top ∈ stack := List.mem_of_mem_drop (hdrop ▸ List.mem_cons_self)
              have htop : top ≠ ".." := fun h => hstack (h ▸ hmem)
              simp [push, htop]
    | cons top below =>
        rw [List.mem_cons, not_or] at hinner
        have htop : top ≠ ".." := fun h => hinner.1 h.symm
        exact ⟨below, climb, hinner.2, by simp [descended, push, htop], by simp [push, htop]⟩
  · refine ⟨name :: inner, climb, ?_, push_of_ne hname _ _, push_of_ne hname _ _⟩
    rw [List.mem_cons, not_or]
    exact ⟨fun h => hname h.symm, hinner⟩

theorem foldl_push_descended {anchor : Anchor} (ha : anchor ≠ .relative) {stack : List String}
    (hstack : ".." ∉ stack) (names : List String) :
    ∃ inner climb, ".." ∉ inner ∧
      names.foldl (push .relative) [] = descended inner climb ∧
      names.foldl (push anchor) stack = inner ++ stack.drop climb := by
  induction names using List.reverseRecOn with
  | nil => exact ⟨[], 0, by simp, rfl, by simp⟩
  | append_singleton names name ih =>
      obtain ⟨inner, climb, hinner, hrelative, habsolute⟩ := ih
      rw [List.foldl_append, List.foldl_append, hrelative, habsolute]
      exact push_descended ha hstack hinner climb name

/-! ## The normal form of a relative text -/

/-- How many folders the normal form of a text goes up. -/
def climb (text : String) : Nat := (read text).names.count ".."

/-- The names along which the normal form of a text goes down. -/
def descent (text : String) : List String := (read text).names.filter (· != "..")

theorem count_descended {inner : List String} (h : ".." ∉ inner) (climb : Nat) :
    (descended inner climb).reverse.count ".." = climb := by
  rw [List.count_reverse, descended, List.count_append, List.count_eq_zero.mpr h]
  simp

theorem filter_descended {inner : List String} (h : ".." ∉ inner) (climb : Nat) :
    (descended inner climb).reverse.filter (· != "..") = inner.reverse := by
  have hself : inner.filter (· != "..") = inner := by
    rw [List.filter_eq_self]
    intro name hname
    have hdots : name ≠ ".." := fun heq => h (heq ▸ hname)
    simpa using hdots
  rw [List.filter_reverse, descended, List.filter_append, hself]
  simp

/-- The climb and the descent of a text, and what they do to an absolute stack. -/
theorem climb_descent {anchor : Anchor} (ha : anchor ≠ .relative) {stack : List String}
    (hstack : ".." ∉ stack) {text : String} (h : isAbsolute text = false) :
    (read text).names = List.replicate (climb text) ".." ++ descent text ∧
      (ofString text).names.foldl (push anchor) stack =
        (descent text).reverse ++ stack.drop (climb text) := by
  have hanchor : anchorOf text = .relative := by
    by_contra hne
    rw [(isAbsolute_iff text).mpr hne] at h
    cases h
  obtain ⟨inner, k, hinner, hrelative, habsolute⟩ :=
    foldl_push_descended ha hstack (ofString text).names
  have hnames : (read text).names = (descended inner k).reverse := by
    show ((ofString text).names.foldl (push (anchorOf text)) []).reverse = _
    rw [hanchor, hrelative]
  have hclimb : climb text = k := by rw [climb, hnames, count_descended hinner]
  have hdescent : descent text = inner.reverse := by rw [descent, hnames, filter_descended hinner]
  rw [hclimb, hdescent, hnames, habsolute]
  simp [descended]

theorem dots_not_mem_of_isAbsolute {text : String} (h : isAbsolute text = true) :
    ".." ∉ (read text).names := by
  have hsettled := not_mem_of_settled ((isAbsolute_iff text).mp h) (isNormal_read text).settled
  rwa [List.mem_reverse] at hsettled

/-- **A relative text behind an absolute path** takes names off its end and adds others. -/
theorem names_read_append {left right : String} (hleft : isAbsolute left = true)
    (h : isAbsolute right = false) :
    (read (append left right)).names = (read left).names.rdrop (climb right) ++ descent right := by
  have hstack : ".." ∉ (read left).names.reverse := by
    rw [List.mem_reverse]
    exact dots_not_mem_of_isAbsolute hleft
  rw [read_append (ne_empty_of_isAbsolute hleft) h,
    (climb_descent ((isAbsolute_iff left).mp hleft) hstack h).2]
  simp [List.rdrop_eq_reverse_drop_reverse]

theorem anchor_read_append {left right : String} (hleft : isAbsolute left = true)
    (h : isAbsolute right = false) :
    (read (append left right)).anchor = (read left).anchor := by
  rw [read_append (ne_empty_of_isAbsolute hleft) h]
  rfl

theorem descent_of_isAbsolute {text : String} (h : isAbsolute text = true) :
    descent text = (read text).names := by
  rw [descent, List.filter_eq_self]
  intro name hname
  have hdots : name ≠ ".." := fun heq => dots_not_mem_of_isAbsolute h (heq ▸ hname)
  simpa using hdots

/-! ## Below a folder -/

/-- A path lies strictly below a folder: it leads through the names of the folder to others. -/
def IsBelow (path folder : String) : Prop :=
  (read path).anchor = (read folder).anchor ∧
    ∃ names, names ≠ [] ∧ (read path).names = (read folder).names ++ names

/-- No folder lies below itself. -/
theorem not_isBelow_self (folder : String) : ¬ IsBelow folder folder := by
  rintro ⟨-, names, hne, hnames⟩
  exact hne (List.self_eq_append_right.mp hnames)

/-- A path with more names lies below the folder of the first ones. -/
theorem isBelow_render {anchor : Anchor} {front more : List String} (ha : anchor ≠ .relative)
    (hnormal : IsNormal ⟨anchor, front ++ more⟩) (hne : more ≠ []) :
    IsBelow (render ⟨anchor, front ++ more⟩) (render ⟨anchor, front⟩) := by
  have hfront : IsNormal ⟨anchor, front⟩ := hnormal.of_subset ha (List.subset_append_left ..)
  rw [IsBelow, read_render hnormal, read_render hfront]
  exact ⟨rfl, more, hne, rfl⟩

/-- A text stays inside the folder that it is seen from, and does not stay at that folder. -/
def IsInner (text : String) : Prop :=
  isAbsolute text = false ∧ climb text = 0 ∧ descent text ≠ []

instance : DecidablePred IsInner := fun text =>
  inferInstanceAs (Decidable (isAbsolute text = false ∧ climb text = 0 ∧ descent text ≠ []))

/-- **The folders that an absolute path lies below** have the names on its way, all but its last. -/
theorem exists_isBelow_iff {path name : String} (hpath : isAbsolute path = true)
    (hname : name ≠ "") :
    (∃ folder, fileName folder = name ∧ IsBelow path folder) ↔
      name ∈ (read path).names.dropLast := by
  have ha : anchorOf path ≠ .relative := (isAbsolute_iff path).mp hpath
  constructor
  · rintro ⟨folder, hfolder, hanchor, below, hne, hnames⟩
    have habsolute : isAbsolute folder = true := by
      rw [isAbsolute_iff]
      exact fun h => ha (hanchor.trans h)
    rw [fileName_of_isAbsolute habsolute] at hfolder
    rw [hnames, List.dropLast_append_of_ne_nil hne]
    refine List.mem_append_left _ ?_
    cases hlast : (read folder).names.getLast? with
    | none =>
        rw [List.getLastD_eq_getLast?, hlast] at hfolder
        exact absurd hfolder.symm hname
    | some last =>
        rw [List.getLastD_eq_getLast?, hlast] at hfolder
        exact hfolder ▸ List.mem_of_getLast? hlast
  -- the folder is cut out of the path, up to the name and with it
  · intro h
    obtain ⟨above, below, hsplit⟩ := List.append_of_mem h
    have hne : (read path).names ≠ [] := by
      rintro hnil
      simp [hnil] at h
    have hnames : (read path).names =
        (above ++ [name]) ++ (below ++ [(read path).names.getLast hne]) := by
      rw [← List.append_assoc, List.append_assoc above, List.singleton_append, ← hsplit,
        List.dropLast_append_getLast]
    have hnormal : IsNormal ⟨anchorOf path, above ++ [name]⟩ := by
      have hread : IsNormal ⟨anchorOf path, (read path).names⟩ := isNormal_read path
      refine hread.of_subset ha ?_
      rw [hnames]
      exact List.subset_append_left _ _
    refine ⟨render ⟨anchorOf path, above ++ [name]⟩, ?_, ?_,
      below ++ [(read path).names.getLast hne], by simp, ?_⟩
    · rw [fileName_of_isAbsolute (isAbsolute_render_of_ne_relative ha _), read_render hnormal]
      simp
    · rw [read_render hnormal]
      rfl
    · rw [read_render hnormal]
      exact hnames

/-- Names that were taken off the end do not come back without the last of them. -/
theorem eq_zero_of_append_eq_rdrop {front added others : List String} {last : String} {taken : Nat}
    (hlast : last ∉ others)
    (h : (front ++ [last]) ++ added = (front ++ [last]).rdrop taken ++ others) : taken = 0 := by
  cases taken with
  | zero => rfl
  | succ taken =>
      rw [List.rdrop_concat_succ] at h
      have hcount := congrArg (List.count last) h
      have hleft : (front.rdrop taken).count last ≤ front.count last :=
        (List.take_sublist _ _).count_le _
      simp only [List.count_append, List.count_singleton_self, List.count_eq_zero.mpr hlast]
        at hcount
      omega

/-- **When a text behind a folder leads below that folder.** A text that does not hold the name of
the folder leads strictly below it exactly when it is inner. -/
theorem isBelow_append_iff {folder text : String} (hfolder : isAbsolute folder = true)
    (hne : (read folder).names ≠ []) (htext : fileName folder ∉ (read text).names) :
    IsBelow (append folder text) folder ↔ IsInner text := by
  obtain ⟨front, hfront⟩ : ∃ front, (read folder).names = front ++ [fileName folder] := by
    refine ⟨(read folder).names.dropLast, ?_⟩
    rw [fileName_of_isAbsolute hfolder, List.getLastD_eq_getLast?,
      List.getLast?_eq_some_getLast hne, Option.getD_some, List.dropLast_append_getLast]
  by_cases habsolute : isAbsolute text = true
  · -- the text stands alone, and does not hold the name of the folder
    have happend : append folder text = text := by rw [append, if_pos habsolute]
    rw [happend]
    constructor
    · rintro ⟨-, names, -, hnames⟩
      rw [hnames, hfront] at htext
      simp at htext
    · rintro ⟨hrelative, -⟩
      rw [habsolute] at hrelative
      cases hrelative
  have hrelative : isAbsolute text = false := by simpa using habsolute
  have hnames := names_read_append hfolder hrelative
  constructor
  · rintro ⟨-, names, hbelow, hsame⟩
    have hdescent : fileName folder ∉ descent text := fun hmem => htext (List.mem_filter.mp hmem).1
    rw [hnames, hfront] at hsame
    have hclimb : climb text = 0 := eq_zero_of_append_eq_rdrop hdescent hsame.symm
    rw [hclimb, List.rdrop_zero, List.append_cancel_left_eq] at hsame
    exact ⟨hrelative, hclimb, hsame ▸ hbelow⟩
  · rintro ⟨-, hclimb, hbelow⟩
    refine ⟨anchor_read_append hfolder hrelative, descent text, hbelow, ?_⟩
    rw [hnames, hclimb, List.rdrop_zero]

/-! ## Names and segments -/

/-- A finer split splits the parts of a coarser one. -/
theorem splitOnP_eq_flatMap {α : Type} {coarse fine : α → Bool}
    (hfine : ∀ x, coarse x = true → fine x = true) (xs : List α) :
    xs.splitOnP fine = (xs.splitOnP coarse).flatMap (List.splitOnP fine) := by
  induction xs with
  | nil => simp
  | cons x xs ih =>
      obtain ⟨first, rest, hsplit⟩ := List.exists_cons_of_ne_nil (List.splitOnP_ne_nil coarse xs)
      rw [List.splitOnP_cons_eq_if_modifyHead, List.splitOnP_cons_eq_if_modifyHead, ih, hsplit]
      by_cases hcoarse : coarse x = true
      · rw [if_pos hcoarse, if_pos (hfine x hcoarse)]
        simp
      · -- the character goes to the first part, on both sides
        rw [if_neg hcoarse, List.modifyHead_cons, List.flatMap_cons, List.flatMap_cons,
          List.splitOnP_cons_eq_if_modifyHead]
        obtain ⟨head, tail, hhead⟩ := List.exists_cons_of_ne_nil (List.splitOnP_ne_nil fine first)
        by_cases hsplits : fine x = true
        · rw [if_pos hsplits, if_pos hsplits, List.cons_append]
        · rw [if_neg hsplits, if_neg hsplits, hhead]
          rfl

/-- A name that a text is read to hold is one of its segments, unless it holds a slash of the
other kind. -/
theorem mem_segments_of_mem_read {text name : String} (hslash : '\\' ∉ name.toList)
    (h : name ∈ (read text).names) : name ∈ segments text := by
  have hkept : name ∈ (ofString text).names := by
    rcases mem_foldl_push _ (List.mem_reverse.mp h) with hkept | hnil
    · exact hkept
    · simp at hnil
  obtain ⟨hlegible, hpiece⟩ := isLegible_of_mem_ofString hkept
  obtain ⟨part, hpart, rfl⟩ := List.mem_map.mp (List.mem_filter.mp hkept).1
  rw [String.toList_ofList] at hslash hpiece
  -- the part holds no slash of either kind, so the finer split leaves it whole
  have hwhole : part.splitOnP (fun c => c == '/' || c == '\\') = [part] := by
    refine List.splitOnP_eq_singleton fun c hc => ?_
    have hne : c ≠ '/' ∧ c ≠ '\\' := ⟨fun heq => hpiece (heq ▸ hc), fun heq => hslash (heq ▸ hc)⟩
    simp [hne.1, hne.2]
  have hnonempty : String.ofList part ≠ "" := by
    rintro hempty
    rw [hempty] at hlegible
    exact absurd hlegible (by decide)
  have hsplit : text.toList.splitOnP (fun c => c == '/' || c == '\\')
      = (text.toList.splitOnP (· == '/')).flatMap (List.splitOnP fun c => c == '/' || c == '\\') :=
    splitOnP_eq_flatMap (by simp) _
  rw [segments, List.mem_filter, hsplit]
  refine ⟨List.mem_map.mpr ⟨part, ?_, rfl⟩, by simpa using hnonempty⟩
  exact List.mem_flatMap.mpr ⟨part, hpart, hwhole ▸ List.mem_singleton_self part⟩

end ModuleResolution.Path
