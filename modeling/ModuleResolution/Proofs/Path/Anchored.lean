import ModuleResolution.Proofs.Path.Climb
import ModuleResolution.Proofs.Path.Lineage

/-! # Anchored paths

The absolute path of a text is the text put behind a directory, and that behind the current one
(`absoluteFrom_eq_join`). Behind an absolute path it does not matter whether a text is in normal
form, nor in what order several of them are put together (`normalize_append_normalize`,
`normalize_append_assoc`), because a text only says how far to go up and along which names to go
down then. So anchoring one text behind another can be done at once, or one after the other
(`absoluteFrom_absoluteFrom`), and absolute paths in normal form stay as they are.
-/

set_option autoImplicit false

namespace ModuleResolution.Path

variable {cwd left : String}

/-! ## One path after another -/

theorem append_of_isAbsolute {right : String} (h : isAbsolute right = true) (left : String) :
    append left right = right := if_pos h

/-- Two relative paths make up a relative one. -/
theorem isAbsolute_append_eq_false {left right : String} (hleft : isAbsolute left = false)
    (hright : isAbsolute right = false) : isAbsolute (append left right) = false := by
  by_cases hempty : left = ""
  · subst hempty
    rw [append, if_neg (by simp [hright]), if_pos (by simp), String.empty_append]
    exact hright
  · by_contra habsolute
    have hanchor : anchorOf left ≠ .relative := by
      rw [← anchorOf_append hempty hright, ← isAbsolute_iff]
      simpa using habsolute
    rw [(isAbsolute_iff left).mpr hanchor] at hleft
    cases hleft

/-- What is put behind an absolute path may be in normal form. -/
theorem normalize_append_normalize (hleft : isAbsolute left = true) (right : String) :
    normalize (append left (normalize right)) = normalize (append left right) := by
  by_cases hright : isAbsolute right = true
  · have hnormal : isAbsolute (normalize right) = true := by rwa [isAbsolute_normalize]
    rw [append_of_isAbsolute hnormal, append_of_isAbsolute hright, normalize_normalize]
  · have hrelative : isAbsolute right = false := by simpa using hright
    have hnormal : isAbsolute (normalize right) = false := by rwa [isAbsolute_normalize]
    -- the climb and the descent of a text are those of its normal form
    have hnames : (read (append left (normalize right))).names =
        (read (append left right)).names := by
      rw [names_read_append hleft hnormal, names_read_append hleft hrelative, climb, descent,
        read_normalize]
      rfl
    have hanchor : (read (append left (normalize right))).anchor =
        (read (append left right)).anchor := by
      rw [anchor_read_append hleft hnormal, anchor_read_append hleft hrelative]
    have hread : read (append left (normalize right)) = read (append left right) := by
      rw [Path.mk.injEq]
      exact ⟨hanchor, hnames⟩
    exact congrArg render hread

/-- **Paths behind an absolute one** can be put together in either order. -/
theorem normalize_append_assoc (hleft : isAbsolute left = true) (middle right : String) :
    normalize (append (append left middle) right) =
      normalize (append left (append middle right)) := by
  by_cases hright : isAbsolute right = true
  · rw [append_of_isAbsolute hright, append_of_isAbsolute hright, append_of_isAbsolute hright]
  have hrelative : isAbsolute right = false := by simpa using hright
  by_cases hmiddle : isAbsolute middle = true
  · rw [append_of_isAbsolute hmiddle, append_of_isAbsolute (isAbsolute_append hmiddle right)]
  have hmiddle' : isAbsolute middle = false := by simpa using hmiddle
  have hboth : isAbsolute (append middle right) = false :=
    isAbsolute_append_eq_false hmiddle' hrelative
  have hfront : append left middle ≠ "" := ne_empty_of_isAbsolute (isAbsolute_append hleft middle)
  have hempty : left ≠ "" := ne_empty_of_isAbsolute hleft
  -- both have the anchor of the first and the names of all three
  have hnames : (ofString (append (append left middle) right)).names =
      (ofString (append left (append middle right))).names := by
    rw [names_ofString_append _ hrelative, names_ofString_append _ hmiddle',
      names_ofString_append _ hboth, names_ofString_append _ hrelative, List.append_assoc]
  have hanchor : anchorOf (append (append left middle) right) =
      anchorOf (append left (append middle right)) := by
    rw [anchorOf_append hfront hrelative, anchorOf_append hempty hmiddle',
      anchorOf_append hempty hboth]
  have hsame : ofString (append (append left middle) right) =
      ofString (append left (append middle right)) := by
    rw [Path.mk.injEq]
    exact ⟨hanchor, hnames⟩
  exact congrArg (fun path : Path => path.collapse.render) hsame

/-! ## Absolute paths of texts -/

section

variable (hcwd : isAbsolute cwd = true)

include hcwd

/-- **The absolute path of a text** is the text behind its directory behind the current one. -/
theorem absoluteFrom_eq_join (directory text : String) :
    absoluteFrom cwd directory text = join [cwd, directory, text] := by
  show _ = normalize (append (append cwd directory) text)
  unfold absoluteFrom
  by_cases htext : isAbsolute text = true
  · rw [if_pos htext, append_of_isAbsolute htext]
  · rw [if_neg htext]
    exact join_normalize (isAbsolute_append hcwd directory) text

/-- **Anchoring composes**: a text as seen from the absolute path of another one is the two of them
joined. -/
theorem absoluteFrom_absoluteFrom (directory first second : String) :
    absoluteFrom cwd (absoluteFrom cwd directory first) second =
      absoluteFrom cwd directory (join [first, second]) := by
  have hfolder : isAbsolute (append cwd directory) = true := isAbsolute_append hcwd directory
  have hfirst : isAbsolute (absoluteFrom cwd directory first) = true :=
    isAbsolute_absoluteFrom hcwd directory first
  calc absoluteFrom cwd (absoluteFrom cwd directory first) second
      = normalize (append (absoluteFrom cwd directory first) second) := by
        rw [absoluteFrom_eq_join hcwd, join, List.foldl_cons, append_of_isAbsolute hfirst]
        rfl
    _ = normalize (append (append (append cwd directory) first) second) := by
        rw [absoluteFrom_eq_join hcwd]
        exact join_normalize (isAbsolute_append hfolder first) second
    _ = normalize (append (append cwd directory) (append first second)) :=
        normalize_append_assoc hfolder first second
    _ = normalize (append (append cwd directory) (join [first, second])) :=
        (normalize_append_normalize hfolder (append first second)).symm
    _ = absoluteFrom cwd directory (join [first, second]) :=
        (absoluteFrom_eq_join hcwd directory _).symm

/-- An absolute path is the same from everywhere. -/
theorem absoluteFrom_of_absoluteFrom (directory text other : String) :
    absoluteFrom cwd other (absoluteFrom cwd directory text) = absoluteFrom cwd directory text := by
  rw [absoluteFrom_of_isAbsolute (isAbsolute_absoluteFrom hcwd directory text),
    normalize_absoluteFrom]

/-- The directory may be made absolute first. -/
theorem absoluteFrom_absolute (directory text : String) :
    absoluteFrom cwd (absolute cwd directory) text = absoluteFrom cwd directory text := by
  have hdirectory : absolute cwd directory = normalize (append cwd directory) := by
    rw [absolute, absoluteFrom_eq_join hcwd, join, List.foldl_cons, append_of_isAbsolute hcwd]
    rfl
  have habsolute : isAbsolute (absolute cwd directory) = true :=
    isAbsolute_absoluteFrom hcwd cwd directory
  calc absoluteFrom cwd (absolute cwd directory) text
      = normalize (append (absolute cwd directory) text) := by
        rw [absoluteFrom_eq_join hcwd, join, List.foldl_cons, append_of_isAbsolute habsolute]
        rfl
    _ = normalize (append (append cwd directory) text) := by
        rw [hdirectory]
        exact join_normalize (isAbsolute_append hcwd directory) text
    _ = absoluteFrom cwd directory text := (absoluteFrom_eq_join hcwd directory text).symm

/-- **Spellings**: a directory and a text may be replaced by their normal forms. -/
theorem absoluteFrom_normalize (directory text : String) :
    absoluteFrom cwd (normalize directory) (normalize text) = absoluteFrom cwd directory text := by
  have hfolder : isAbsolute (append cwd directory) = true := isAbsolute_append hcwd directory
  have hnormal : isAbsolute (append cwd (normalize directory)) = true :=
    isAbsolute_append hcwd (normalize directory)
  calc absoluteFrom cwd (normalize directory) (normalize text)
      = normalize (append (append cwd (normalize directory)) (normalize text)) :=
        absoluteFrom_eq_join hcwd _ _
    _ = normalize (append (append cwd (normalize directory)) text) :=
        normalize_append_normalize hnormal text
    _ = normalize (append (normalize (append cwd (normalize directory))) text) :=
        (join_normalize hnormal text).symm
    _ = normalize (append (normalize (append cwd directory)) text) := by
        rw [normalize_append_normalize hcwd]
    _ = normalize (append (append cwd directory) text) := join_normalize hfolder text
    _ = absoluteFrom cwd directory text := (absoluteFrom_eq_join hcwd directory text).symm

end

/-! ## The laws together -/

/-- What making texts absolute is expected to do in a current directory. -/
structure Anchors (cwd : String) : Prop where
  isAbsolute_absoluteFrom : ∀ directory text, isAbsolute (absoluteFrom cwd directory text) = true
  normalize_absoluteFrom : ∀ directory text,
    normalize (absoluteFrom cwd directory text) = absoluteFrom cwd directory text
  /-- Once absolute, a text is the same from every directory. -/
  absoluteFrom_again : ∀ directory text other,
    absoluteFrom cwd other (absoluteFrom cwd directory text) = absoluteFrom cwd directory text
  /-- One text behind another is the two of them joined. -/
  absoluteFrom_join : ∀ first second directory,
    absoluteFrom cwd (absoluteFrom cwd directory first) second =
      absoluteFrom cwd directory (join [first, second])
  /-- Dots and slashes that the normal form leaves out make no difference. -/
  absoluteFrom_normalize : ∀ directory text,
    absoluteFrom cwd (normalize directory) (normalize text) = absoluteFrom cwd directory text

theorem anchors_of_isAbsolute (hcwd : isAbsolute cwd = true) : Anchors cwd where
  isAbsolute_absoluteFrom := isAbsolute_absoluteFrom hcwd
  normalize_absoluteFrom := normalize_absoluteFrom cwd
  absoluteFrom_again := absoluteFrom_of_absoluteFrom hcwd
  absoluteFrom_join first second directory := absoluteFrom_absoluteFrom hcwd directory first second
  absoluteFrom_normalize := absoluteFrom_normalize hcwd

end ModuleResolution.Path
