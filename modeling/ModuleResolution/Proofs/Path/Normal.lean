import Mathlib.Data.List.TakeWhile
import ModuleResolution.Path.Basic

/-! # Normal forms of paths

A `Path` is normal when its names are ones that reading can give (no slash, neither empty nor
`.`) and nothing is left to cancel: no `..` below an absolute anchor, and in a relative path only
in front. Reading a text gives a normal path (`isNormal_read`), and a normal path is read back
from what it is written as (`read_render`), so writing and reading are inverse to each other on
normal paths and `normalize` is idempotent.

On absolute texts `parent`, `fileName` and `absoluteFrom` are then operations on the list of
names: dropping the last name, taking it, and adding one (`render_append`, `read_append_name`).
-/

set_option autoImplicit false

namespace ModuleResolution.Path

/-! ## Stacks with nothing left to cancel -/

/-- A name that reading can give. -/
def IsLegible (name : String) : Prop := isName name = true ∧ '/' ∉ name.toList

/-- Nothing is left to cancel in a stack of names, innermost first: a `..` has only `..` below
it, and none at all at an absolute anchor. -/
def Settled (anchor : Anchor) : List String → Prop
  | [] => True
  | name :: below =>
    (name = ".." → anchor = .relative ∧ ∀ other ∈ below, other = "..") ∧ Settled anchor below

theorem push_of_settled {anchor : Anchor} {name : String} {below : List String}
    (h : Settled anchor (name :: below)) : push anchor below name = name :: below := by
  obtain ⟨htop, -⟩ := h
  by_cases hname : name = ".."
  · obtain ⟨hrel, hbelow⟩ := htop hname
    cases below with
    | nil => rw [push, if_pos hname, if_pos hrel]
    | cons top rest =>
        have htop' : top = ".." := hbelow top (by simp)
        rw [push, if_pos hname, if_pos htop']
  · cases below with
    | nil => rw [push, if_neg hname]
    | cons top rest => rw [push, if_neg hname]

/-- **One push keeps a stack settled.** -/
theorem settled_push {anchor : Anchor} {stack : List String} (h : Settled anchor stack)
    (name : String) : Settled anchor (push anchor stack name) := by
  by_cases hname : name = ".."
  · cases stack with
    | nil =>
        rw [push, if_pos hname]
        by_cases hrel : anchor = .relative
        · rw [if_pos hrel]
          exact ⟨fun _ => ⟨hrel, by simp⟩, trivial⟩
        · rw [if_neg hrel]
          exact trivial
    | cons top below =>
        rw [push, if_pos hname]
        by_cases htop : top = ".."
        · -- nothing below a `..` is cancelled, so there are only others of them
          rw [if_pos htop]
          obtain ⟨hrel, hbelow⟩ := h.1 htop
          refine ⟨fun _ => ⟨hrel, ?_⟩, h⟩
          intro other hother
          rcases List.mem_cons.mp hother with rfl | hother
          · exact htop
          · exact hbelow other hother
        · rw [if_neg htop]
          exact h.2
  · have hpush : push anchor stack name = name :: stack := by
      cases stack <;> simp [push, hname]
    rw [hpush]
    exact ⟨fun hdots => absurd hdots hname, h⟩

theorem mem_push {anchor : Anchor} {stack : List String} {name other : String}
    (h : other ∈ push anchor stack name) : other = name ∨ other ∈ stack := by
  unfold push at h
  split at h
  · split at h
    · split at h
      · exact Or.inl (by simpa using h)
      · simp at h
    · exact Or.inl (by simpa using h)
  · split at h
    · split at h
      · exact List.mem_cons.mp h
      · exact Or.inr (List.mem_cons_of_mem _ h)
    · exact List.mem_cons.mp h

theorem settled_foldl_push {anchor : Anchor} (names : List String) {stack : List String}
    (h : Settled anchor stack) : Settled anchor (names.foldl (push anchor) stack) := by
  induction names generalizing stack with
  | nil => exact h
  | cons name names ih => exact ih (settled_push h name)

theorem mem_foldl_push {anchor : Anchor} (names : List String) {stack : List String}
    {other : String} (h : other ∈ names.foldl (push anchor) stack) :
    other ∈ names ∨ other ∈ stack := by
  induction names generalizing stack with
  | nil => exact Or.inr h
  | cons name names ih =>
      rcases ih h with hnames | hstack
      · exact Or.inl (List.mem_cons_of_mem _ hnames)
      · rcases mem_push hstack with rfl | hstack
        · exact Or.inl List.mem_cons_self
        · exact Or.inr hstack

/-- A settled stack is rebuilt by pushing its names, outermost first. -/
theorem foldl_push_reverse {anchor : Anchor} {stack : List String} (h : Settled anchor stack) :
    stack.reverse.foldl (push anchor) [] = stack := by
  induction stack with
  | nil => rfl
  | cons name below ih =>
      rw [List.reverse_cons, List.foldl_append, ih h.2]
      exact push_of_settled h

/-- At an absolute anchor a stack without `..` is settled. -/
theorem settled_of_not_mem {anchor : Anchor} {stack : List String} (h : ".." ∉ stack) :
    Settled anchor stack := by
  induction stack with
  | nil => exact trivial
  | cons name below ih =>
      rw [List.mem_cons, not_or] at h
      exact ⟨fun hname => absurd hname.symm h.1, ih h.2⟩

/-- At an absolute anchor a settled stack holds no `..`. -/
theorem not_mem_of_settled {anchor : Anchor} (ha : anchor ≠ .relative) {stack : List String}
    (h : Settled anchor stack) : ".." ∉ stack := by
  induction stack with
  | nil => simp
  | cons name below ih =>
      rw [List.mem_cons, not_or]
      exact ⟨fun hname => ha (h.1 hname.symm).1, ih h.2⟩

/-! ## Normal paths -/

/-- A path that reading a text can give. -/
structure IsNormal (path : Path) : Prop where
  legible : ∀ name ∈ path.names, IsLegible name
  settled : Settled path.anchor path.names.reverse

/-- At an absolute anchor a path is normal when each of its names is legible and no `..`. -/
theorem isNormal_iff {anchor : Anchor} (ha : anchor ≠ .relative) (names : List String) :
    IsNormal ⟨anchor, names⟩ ↔ ∀ name ∈ names, IsLegible name ∧ name ≠ ".." := by
  constructor
  · intro h name hname
    refine ⟨h.legible name hname, ?_⟩
    rintro rfl
    exact not_mem_of_settled ha h.settled (List.mem_reverse.mpr hname)
  · intro h
    refine ⟨fun name hname => (h name hname).1, settled_of_not_mem ?_⟩
    intro hdots
    exact (h ".." (List.mem_reverse.mp hdots)).2 rfl

/-- Some of the names of a normal path, at its absolute anchor, make up a normal path. -/
theorem IsNormal.of_subset {anchor : Anchor} (ha : anchor ≠ .relative) {names others : List String}
    (h : IsNormal ⟨anchor, names⟩) (hothers : others ⊆ names) : IsNormal ⟨anchor, others⟩ := by
  rw [isNormal_iff ha] at h ⊢
  exact fun name hname => h name (hothers hname)

theorem collapse_of_isNormal {path : Path} (h : path.IsNormal) : path.collapse = path := by
  have hfold : path.names.foldl (push path.anchor) [] = path.names.reverse := by
    have hback := foldl_push_reverse h.settled
    rwa [List.reverse_reverse] at hback
  rw [collapse, hfold, List.reverse_reverse]

/-! ## Pieces -/

/-- No part of a list split at an element holds that element. -/
theorem not_mem_of_mem_splitOn {α : Type} [BEq α] [LawfulBEq α] {x : α} (xs : List α)
    {part : List α} (h : part ∈ xs.splitOn x) : x ∉ part := by
  induction xs generalizing part with
  | nil =>
      rw [List.splitOn_nil, List.mem_singleton] at h
      simp [h]
  | cons y ys ih =>
      rw [List.splitOn_cons_eq_if_modifyHead] at h
      obtain ⟨first, rest, hsplit⟩ := List.exists_cons_of_ne_nil (List.splitOn_ne_nil x ys)
      rw [hsplit] at h ih
      by_cases hy : y = x
      · rw [if_pos (by simpa using hy)] at h
        rcases List.mem_cons.mp h with rfl | h
        · simp
        · exact ih h
      · rw [if_neg (by simpa using hy), List.modifyHead_cons] at h
        rcases List.mem_cons.mp h with rfl | h
        · rw [List.mem_cons, not_or]
          exact ⟨fun hxy => hy hxy.symm, ih List.mem_cons_self⟩
        · exact ih (List.mem_cons_of_mem _ h)

theorem not_mem_of_mem_pieces {text piece : String} (h : piece ∈ pieces text) :
    '/' ∉ piece.toList := by
  obtain ⟨chars, hchars, rfl⟩ := List.mem_map.mp h
  rw [String.toList_ofList]
  exact not_mem_of_mem_splitOn _ hchars

theorem pieces_slash (text : String) : pieces ("/" ++ text) = "" :: pieces text := by
  have hchars : ("/" ++ text).toList = '/' :: text.toList := by simp
  rw [pieces, hchars, List.splitOn_cons_eq_if_modifyHead, if_pos (by simp)]
  rfl

/-- Names without slashes are the pieces of their joint text. -/
theorem pieces_joinNames {names : List String} (h : ∀ name ∈ names, '/' ∉ name.toList)
    (hne : names ≠ []) : pieces (joinNames names) = names := by
  have hsplit : ((joinNames names).toList).splitOn '/' = names.map String.toList := by
    rw [joinNames, String.toList_intercalate]
    refine List.splitOn_intercalate '/' ?_ (by simpa using hne)
    intro chars hchars
    obtain ⟨name, hname, rfl⟩ := List.mem_map.mp hchars
    exact h name hname
  rw [pieces, hsplit, List.map_map]
  simp [Function.comp_def]

/-- A text without slashes is one piece. -/
theorem pieces_of_slash_not_mem {name : String} (h : '/' ∉ name.toList) : pieces name = [name] := by
  have hjoin : pieces (joinNames [name]) = [name] :=
    pieces_joinNames (by simpa using h) (by simp)
  rwa [joinNames, String.intercalate_singleton] at hjoin

/-- Legible names are what is kept of their joint text. -/
theorem filter_pieces_joinNames {names : List String} (h : ∀ name ∈ names, IsLegible name) :
    (pieces (joinNames names)).filter isName = names := by
  by_cases hne : names = []
  · subst hne
    decide
  · rw [pieces_joinNames (fun name hname => (h name hname).2) hne, List.filter_eq_self]
    exact fun name hname => (h name hname).1

theorem isLegible_of_mem_ofString {text name : String} (h : name ∈ (ofString text).names) :
    IsLegible name := by
  obtain ⟨hpiece, hname⟩ := List.mem_filter.mp h
  exact ⟨hname, not_mem_of_mem_pieces hpiece⟩

/-! ## Anchors -/

/-- The slashes that a text starts with. -/
def slashes (text : String) : List Char := text.toList.takeWhile (· == '/')

/-- Two slashes in front are an anchor of their own, any other number of them is the root. -/
theorem anchorOf_eq (text : String) :
    anchorOf text = match (slashes text).length with
      | 0 => .relative
      | 2 => .doubleRoot
      | _ => .root := by
  unfold anchorOf slashes
  rcases text.toList with _ | ⟨c, _ | ⟨d, _ | ⟨e, rest⟩⟩⟩
  · rfl
  · by_cases hc : c = '/' <;> simp [hc]
  · by_cases hc : c = '/' <;> by_cases hd : d = '/' <;> simp [hc, hd]
  · by_cases hc : c = '/' <;> by_cases hd : d = '/' <;> by_cases he : e = '/' <;>
      simp [hc, hd, he]

theorem slashes_eq_nil {text : String} (h : text.toList.head? ≠ some '/') : slashes text = [] := by
  unfold slashes
  cases hc : text.toList with
  | nil => rfl
  | cons c cs =>
      rw [hc] at h
      exact List.takeWhile_cons_of_neg (by simpa using h)

theorem slashes_slash (text : String) : slashes ("/" ++ text) = '/' :: slashes text := by
  have hchars : ("/" ++ text).toList = '/' :: text.toList := by simp
  rw [slashes, hchars, List.takeWhile_cons_of_pos (by simp)]
  rfl

/-- A tail that adds nothing to the slashes in front. -/
theorem slashes_append {left tail : String} (hleft : left ≠ "")
    (h : left.toList.getLast? = some '/' → tail.toList.head? ≠ some '/') :
    slashes (left ++ tail) = slashes left := by
  unfold slashes
  rw [String.toList_append, List.takeWhile_append]
  split
  · next hall =>
    -- `left` is all slashes, so `tail` starts with none
    have hself : left.toList.takeWhile (· == '/') = left.toList :=
      (List.takeWhile_prefix _).eq_of_length hall
    have hlast : left.toList.getLast? = some '/' := by
      have hne : left.toList ≠ [] := mt String.toList_eq_nil_iff.mp hleft
      rw [List.getLast?_eq_some_getLast hne]
      have hall := List.takeWhile_eq_self_iff.mp hself _ (List.getLast_mem hne)
      simpa using hall
    have hnone := slashes_eq_nil (h hlast)
    rw [slashes] at hnone
    rw [hnone, List.append_nil, hself]
  · rfl

theorem anchorOf_relative {text : String} (h : text.toList.head? ≠ some '/') :
    anchorOf text = .relative := by
  rw [anchorOf_eq, slashes_eq_nil h]
  rfl

theorem anchorOf_root {text : String} (h : text.toList.head? ≠ some '/') :
    anchorOf ("/" ++ text) = .root := by
  rw [anchorOf_eq, slashes_slash, slashes_eq_nil h]
  rfl

theorem anchorOf_doubleRoot {text : String} (h : text.toList.head? ≠ some '/') :
    anchorOf ("//" ++ text) = .doubleRoot := by
  have hsplit : "//" ++ text = "/" ++ ("/" ++ text) := by
    rw [← String.append_assoc]
    rfl
  rw [hsplit, anchorOf_eq, slashes_slash, slashes_slash, slashes_eq_nil h]
  rfl

/-- A text is absolute when it is anchored anywhere else than where it is used. -/
theorem isAbsolute_iff (text : String) : isAbsolute text = true ↔ anchorOf text ≠ .relative := by
  unfold isAbsolute anchorOf
  cases hc : text.toList with
  | nil => simp
  | cons c cs => split <;> simp_all

theorem head?_joinNames {names : List String} (h : ∀ name ∈ names, IsLegible name) :
    (joinNames names).toList.head? ≠ some '/' := by
  cases names with
  | nil => decide
  | cons name rest =>
      obtain ⟨hname, hslash⟩ := h name List.mem_cons_self
      have hne : name ≠ "" := by
        rintro rfl
        exact absurd hname (by decide)
      obtain ⟨c, cs, hcs⟩ := List.exists_cons_of_ne_nil (mt String.toList_eq_nil_iff.mp hne)
      have hc : c ≠ '/' := by
        rintro rfl
        exact hslash (by rw [hcs]; exact List.mem_cons_self)
      cases rest with
      | nil => simpa [joinNames, hcs] using hc
      | cons next rest => simpa [joinNames, hcs] using hc

/-- The anchor of a written path is its own. -/
theorem anchorOf_render {path : Path} (h : ∀ name ∈ path.names, IsLegible name) :
    anchorOf path.render = path.anchor := by
  have hhead := head?_joinNames h
  obtain ⟨anchor, names⟩ := path
  cases anchor with
  | relative =>
      cases names with
      | nil => decide
      | cons name rest =>
          show anchorOf ("" ++ joinNames (name :: rest)) = .relative
          rw [String.empty_append]
          exact anchorOf_relative hhead
  | root => exact anchorOf_root hhead
  | doubleRoot => exact anchorOf_doubleRoot hhead

/-! ## Reading and writing -/

theorem names_ofString_render {path : Path} (h : ∀ name ∈ path.names, IsLegible name) :
    (ofString path.render).names = path.names := by
  have hkept := filter_pieces_joinNames h
  obtain ⟨anchor, names⟩ := path
  cases anchor with
  | relative =>
      cases names with
      | nil => decide
      | cons name rest =>
          show (pieces ("" ++ joinNames (name :: rest))).filter isName = name :: rest
          rwa [String.empty_append]
  | root =>
      show (pieces ("/" ++ joinNames names)).filter isName = names
      rw [pieces_slash]
      exact hkept
  | doubleRoot =>
      show (pieces ("/" ++ "/" ++ joinNames names)).filter isName = names
      rw [String.append_assoc, pieces_slash, pieces_slash]
      exact hkept

/-- Legible names are kept by writing and reading. -/
theorem ofString_render {path : Path} (h : ∀ name ∈ path.names, IsLegible name) :
    ofString path.render = path := by
  have hanchor := anchorOf_render h
  have hnames := names_ofString_render h
  obtain ⟨anchor, names⟩ := path
  show Path.mk _ _ = _
  rw [Path.mk.injEq]
  exact ⟨hanchor, hnames⟩

/-- **Reading gives normal paths.** -/
theorem isNormal_read (text : String) : (read text).IsNormal := by
  constructor
  · intro name hname
    have hfold := List.mem_reverse.mp hname
    rcases mem_foldl_push _ hfold with hkept | hnil
    · exact isLegible_of_mem_ofString hkept
    · simp at hnil
  · show Settled _ (List.reverse (List.reverse _))
    rw [List.reverse_reverse]
    exact settled_foldl_push _ trivial

/-- **A normal path is read back from its text.** -/
theorem read_render {path : Path} (h : path.IsNormal) : read path.render = path := by
  rw [read, ofString_render h.legible, collapse_of_isNormal h]

theorem normalize_render {path : Path} (h : path.IsNormal) : normalize path.render = path.render := by
  rw [normalize, read_render h]

@[simp] theorem read_normalize (text : String) : read (normalize text) = read text :=
  read_render (isNormal_read text)

/-- Normal forms are normal forms of themselves. -/
@[simp] theorem normalize_normalize (text : String) : normalize (normalize text) = normalize text :=
  normalize_render (isNormal_read text)

/-! ## One path after another -/

theorem pieces_append_slash (left right : String) :
    pieces (left ++ "/" ++ right) = pieces left ++ pieces right := by
  have hchars : (left ++ "/" ++ right).toList = left.toList ++ '/' :: right.toList := by simp
  rw [pieces, hchars, List.splitOn_append_cons_self, List.map_append]
  rfl

/-- A text that ends in a slash, without that slash. -/
theorem exists_eq_append_slash {text : String} (h : text.toList.getLast? = some '/') :
    ∃ front, text = front ++ "/" := by
  obtain ⟨front, hfront⟩ := List.getLast?_eq_some_iff.mp h
  refine ⟨String.ofList front, ?_⟩
  rw [← String.toList_inj, hfront]
  simp

/-- The names of a path put behind another come behind the names of that one. -/
theorem names_ofString_append (left : String) {right : String} (h : isAbsolute right = false) :
    (ofString (append left right)).names = (ofString left).names ++ (ofString right).names := by
  unfold append
  rw [if_neg (by simp [h])]
  by_cases hempty : left = ""
  · subst hempty
    show (ofString ("" ++ right)).names = _
    rw [String.empty_append]
    rfl
  by_cases hslash : left.toList.getLast? = some '/'
  · rw [if_pos (by simp [hslash])]
    -- the empty piece behind the slash is not kept
    obtain ⟨front, rfl⟩ := exists_eq_append_slash hslash
    have hfront : pieces (front ++ "/") = pieces front ++ [""] := by
      have hback := pieces_append_slash front ""
      rwa [String.append_empty] at hback
    show (pieces (front ++ "/" ++ right)).filter isName = (pieces (front ++ "/")).filter isName ++ _
    rw [pieces_append_slash, hfront, List.filter_append, List.filter_append]
    simp [isName, ofString]
  · rw [if_neg (by simp [hempty, hslash])]
    show (pieces (left ++ "/" ++ right)).filter isName = _
    rw [pieces_append_slash, List.filter_append]
    rfl

/-- The anchor of a path is kept when a relative one is put behind it. -/
theorem anchorOf_append {left right : String} (hleft : left ≠ "") (h : isAbsolute right = false) :
    anchorOf (append left right) = anchorOf left := by
  unfold append
  rw [if_neg (by simp [h])]
  by_cases hslash : left.toList.getLast? = some '/'
  · rw [if_pos (by simp [hslash]), anchorOf_eq, anchorOf_eq left,
      slashes_append hleft fun _ => by simpa [isAbsolute] using h]
  · rw [if_neg (by simp [hleft, hslash]), String.append_assoc, anchorOf_eq, anchorOf_eq left,
      slashes_append hleft fun hlast => absurd hlast hslash]

/-- **Reading one path after another**: the names of the second are pushed on what the first
is read as. -/
theorem read_append {left right : String} (hleft : left ≠ "") (h : isAbsolute right = false) :
    read (append left right) = ⟨anchorOf left,
      ((ofString right).names.foldl (push (anchorOf left)) (read left).names.reverse).reverse⟩ := by
  have hanchor : (ofString (append left right)).anchor = anchorOf left := anchorOf_append hleft h
  have hfirst : (read left).names.reverse
      = (ofString left).names.foldl (push (anchorOf left)) [] := List.reverse_reverse _
  rw [read, collapse, hanchor, names_ofString_append left h, List.foldl_append, hfirst]

theorem isAbsolute_of_isLegible {name : String} (h : IsLegible name) : isAbsolute name = false := by
  have hsingle : ∀ other ∈ [name], IsLegible other := by simpa using h
  have hhead := head?_joinNames hsingle
  simpa [joinNames, isAbsolute] using hhead

theorem ofString_of_isLegible {name : String} (h : IsLegible name) :
    (ofString name).names = [name] := by
  have hsingle : ∀ other ∈ [name], IsLegible other := by simpa using h
  have hkept := filter_pieces_joinNames hsingle
  simpa [joinNames, ofString] using hkept

/-! ## Absolute paths -/

theorem ne_empty_of_isAbsolute {text : String} (h : isAbsolute text = true) : text ≠ "" := by
  rintro rfl
  exact absurd h (by decide)

theorem isAbsolute_render {path : Path} (h : path.IsNormal) :
    isAbsolute path.render = true ↔ path.anchor ≠ .relative := by
  rw [isAbsolute_iff, anchorOf_render h.legible]

/-- The normal form of a text is absolute when the text is. -/
@[simp] theorem isAbsolute_normalize (text : String) :
    isAbsolute (normalize text) = isAbsolute text := by
  rw [Bool.eq_iff_iff, normalize, isAbsolute_render (isNormal_read text), isAbsolute_iff]
  rfl

theorem isAbsolute_append_text {text : String} (h : isAbsolute text = true) (tail : String) :
    isAbsolute (text ++ tail) = true := by
  unfold isAbsolute at h ⊢
  rw [String.toList_append]
  cases hchars : text.toList with
  | nil => simp [hchars] at h
  | cons c cs => simpa [hchars] using h

theorem isAbsolute_append {left : String} (h : isAbsolute left = true) (right : String) :
    isAbsolute (append left right) = true := by
  by_cases hright : isAbsolute right = true
  · rwa [append, if_pos hright]
  · rw [isAbsolute_iff, anchorOf_append (ne_empty_of_isAbsolute h) (by simpa using hright)]
    exact (isAbsolute_iff left).mp h

/-- Anchored at an absolute directory every path is absolute. -/
theorem isAbsolute_absoluteFrom {cwd : String} (h : isAbsolute cwd = true)
    (directory text : String) : isAbsolute (absoluteFrom cwd directory text) = true := by
  unfold absoluteFrom
  by_cases htext : isAbsolute text = true
  · rw [if_pos htext, isAbsolute_normalize]
    exact htext
  · rw [if_neg htext, isAbsolute_normalize]
    refine isAbsolute_append ?_ text
    rw [isAbsolute_normalize]
    exact isAbsolute_append h directory

@[simp] theorem normalize_absoluteFrom (cwd directory text : String) :
    normalize (absoluteFrom cwd directory text) = absoluteFrom cwd directory text := by
  unfold absoluteFrom
  split <;> exact normalize_normalize _

/-- An absolute path is written as its slashes and its names. -/
theorem render_of_ne_relative {anchor : Anchor} (h : anchor ≠ .relative) (names : List String) :
    render ⟨anchor, names⟩ = anchor.text ++ joinNames names := by
  cases anchor with
  | relative => exact absurd rfl h
  | root => rfl
  | doubleRoot => rfl

/-- The last piece is what stands behind the last slash. -/
theorem getLast?_pieces_append {front name : String}
    (hfront : front ≠ "" → front.toList.getLast? = some '/') (hname : '/' ∉ name.toList) :
    (pieces (front ++ name)).getLast? = some name := by
  have hpieces : pieces name = [name] := pieces_of_slash_not_mem hname
  by_cases hempty : front = ""
  · rw [hempty, String.empty_append, hpieces, List.getLast?_singleton]
  · obtain ⟨above, rfl⟩ := exists_eq_append_slash (hfront hempty)
    rw [pieces_append_slash, hpieces, List.getLast?_concat]

/-- A path with names is written as its slashes and its names. -/
theorem render_of_ne_nil (anchor : Anchor) {names : List String} (h : names ≠ []) :
    render ⟨anchor, names⟩ = anchor.text ++ joinNames names := by
  cases anchor with
  | relative =>
      obtain ⟨name, rest, rfl⟩ := List.exists_cons_of_ne_nil h
      exact (String.empty_append ..).symm
  | root => rfl
  | doubleRoot => rfl

/-- A path with a name behind it, unless it has no names. -/
theorem render_concat (anchor : Anchor) {names : List String} (h : names ≠ []) (name : String) :
    render ⟨anchor, names ++ [name]⟩ = render ⟨anchor, names⟩ ++ "/" ++ name := by
  have hjoin : joinNames (names ++ [name]) = joinNames names ++ "/" ++ name := by
    rw [joinNames, String.intercalate_append_of_ne_nil h (by simp), joinNames,
      String.intercalate_singleton, String.append_assoc]
  rw [render_of_ne_nil anchor h, render_of_ne_nil anchor (by simp), hjoin, String.append_assoc,
    String.append_assoc, String.append_assoc]

/-- A name is written behind others with something in front that does not depend on it, and that
is nothing or ends in a slash. -/
theorem exists_render_concat (anchor : Anchor) (above : List String) :
    ∃ front, (∀ name, render ⟨anchor, above ++ [name]⟩ = front ++ name) ∧
      (front ≠ "" → front.toList.getLast? = some '/') := by
  by_cases habove : above = []
  · refine ⟨anchor.text, fun name => ?_, ?_⟩
    · rw [habove, List.nil_append, render_of_ne_nil anchor (by simp), joinNames,
        String.intercalate_singleton]
    · cases anchor <;> decide
  · exact ⟨render ⟨anchor, above⟩ ++ "/", render_concat anchor habove, fun _ => by simp⟩

/-- Behind the last slash of a written path stands its last name. -/
theorem getLast?_pieces_render (anchor : Anchor) (above : List String) {name : String}
    (hname : '/' ∉ name.toList) :
    (pieces (render ⟨anchor, above ++ [name]⟩)).getLast? = some name := by
  obtain ⟨front, hrender, hfront⟩ := exists_render_concat anchor above
  rw [hrender, getLast?_pieces_append hfront hname]

theorem isAbsolute_render_of_ne_relative {anchor : Anchor} (h : anchor ≠ .relative)
    (names : List String) : isAbsolute (render ⟨anchor, names⟩) = true := by
  rw [render_of_ne_relative h, isAbsolute, String.toList_append]
  cases anchor with
  | relative => exact absurd rfl h
  | root => rfl
  | doubleRoot => rfl

/-- The parent of an absolute path is the path without its last name. -/
theorem parent_of_isAbsolute {text : String} (h : isAbsolute text = true) :
    parent text = render ⟨anchorOf text, (read text).names.dropLast⟩ := by
  have hanchor := (isAbsolute_iff text).mp h
  have hread : read text = ⟨anchorOf text, (read text).names⟩ := rfl
  rw [render_of_ne_relative hanchor, parent, hread]
  cases ha : anchorOf text with
  | relative => exact absurd ha hanchor
  | root => rfl
  | doubleRoot => rfl

theorem fileName_of_isAbsolute {text : String} (h : isAbsolute text = true) :
    fileName text = (read text).names.getLastD "" := by
  have hanchor := (isAbsolute_iff text).mp h
  have hread : read text = ⟨anchorOf text, (read text).names⟩ := rfl
  rw [fileName, hread]
  cases ha : anchorOf text with
  | relative => exact absurd ha hanchor
  | root => rfl
  | doubleRoot => rfl

/-- The file name of a path with names is the last of them. -/
theorem fileName_of_names {text name : String} {above : List String}
    (h : (read text).names = above ++ [name]) : fileName text = name := by
  unfold fileName
  split
  · next hread =>
    rw [hread] at h
    simp at h
  · next hread =>
    rw [hread] at h
    dsimp only at h
    rw [h, List.getLastD_concat]

/-- What is written behind a path is written behind its last name. -/
theorem render_append (anchor : Anchor) (names : List String) (name ending : String) :
    render ⟨anchor, names ++ [name]⟩ ++ ending = render ⟨anchor, names ++ [name ++ ending]⟩ := by
  obtain ⟨front, hrender, -⟩ := exists_render_concat anchor names
  rw [hrender, hrender, String.append_assoc]

/-- What is written behind a root is a name in it. -/
theorem render_root_append {anchor : Anchor} (h : anchor ≠ .relative) (ending : String) :
    render ⟨anchor, []⟩ ++ ending = render ⟨anchor, [ending]⟩ := by
  rw [render_of_ne_relative h, render_of_ne_relative h, String.append_assoc]
  simp [joinNames]

/-! ## Names put behind a path -/

/-- **A name put behind a path becomes its last name.** -/
theorem read_append_name (text : String) {name : String} (hname : IsLegible name)
    (hdots : name ≠ "..") :
    read (append text name) = ⟨anchorOf text, (read text).names ++ [name]⟩ := by
  have hrelative : isAbsolute name = false := isAbsolute_of_isLegible hname
  have hpush : ∀ stack, push (anchorOf text) stack name = name :: stack := by
    intro stack
    cases stack <;> simp [push, hdots]
  have hanchor : (ofString (append text name)).anchor = anchorOf text := by
    by_cases hempty : text = ""
    · -- what is put behind the empty text stands alone
      subst hempty
      show anchorOf (append "" name) = .relative
      rw [append, if_neg (by simp [hrelative]), if_pos (by simp), String.empty_append]
      by_contra hother
      rw [(isAbsolute_iff name).mpr hother] at hrelative
      cases hrelative
    · exact anchorOf_append hempty hrelative
  rw [read, collapse, hanchor, names_ofString_append text hrelative, ofString_of_isLegible hname,
    List.foldl_append, List.foldl_cons, List.foldl_nil, hpush, List.reverse_cons]
  rfl

theorem join_name (text : String) {name : String} (hname : IsLegible name) (hdots : name ≠ "..") :
    join [text, name] = render ⟨anchorOf text, (read text).names ++ [name]⟩ :=
  congrArg render (read_append_name text hname hdots)

end ModuleResolution.Path
