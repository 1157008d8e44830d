import Mathlib.Data.List.Induction
import ModuleResolution.Options.Basic

/-! # The lists of the rules

The extensions and the manifest fields of the rules are the defaults and behind them what a caller
adds, with the first of equal entries kept. Such a list starts with the defaults, has each entry
once, and has them in the order in which they first occur (`keepsFirsts_eraseDups`). When more is
added behind, it becomes longer at its end and stays the same in front (`eraseDups_prefix`).

Extensions are added with a dot in front, so each that is allowed starts with one
(`Options.head?_of_mem_allowed`).
-/

set_option autoImplicit false

namespace ModuleResolution

/-! ## The first of equal entries -/

/-- A list starts with the defaults and has, each once, the defaults and the entries that are added,
in the order in which they first occur. -/
structure KeepsFirsts (defaults added kept : List String) : Prop where
  starts : defaults <+: kept
  nodup : kept.Nodup
  mem (entry : String) : entry ∈ kept ↔ entry ∈ defaults ∨ entry ∈ added
  ordered : kept.Pairwise fun first second =>
    (defaults ++ added).idxOf first < (defaults ++ added).idxOf second

/-- What comes behind a list does not change what is kept of it. -/
theorem eraseDups_prefix {front whole : List String} (h : front <+: whole) :
    front.eraseDups <+: whole.eraseDups := by
  obtain ⟨back, rfl⟩ := h
  rw [List.eraseDups_append]
  exact List.prefix_append _ _

/-- The entries that are kept stand in the order in which they first occur. -/
theorem pairwise_idxOf_eraseDups (entries : List String) :
    entries.eraseDups.Pairwise fun first second => entries.idxOf first < entries.idxOf second := by
  induction entries using List.reverseRecOn with
  | nil => exact List.Pairwise.nil
  | append_singleton front last ih =>
      -- an entry of the front first occurs there
      have hfront : ∀ entry ∈ front.eraseDups,
          (front ++ [last]).idxOf entry = front.idxOf entry := by
        intro entry hentry
        rw [List.idxOf_append, if_pos (List.mem_eraseDups.mp hentry)]
      have hkept : front.eraseDups.Pairwise fun first second =>
          (front ++ [last]).idxOf first < (front ++ [last]).idxOf second := by
        refine ih.imp_of_mem fun hfirst hsecond hlt => ?_
        rwa [hfront _ hfirst, hfront _ hsecond]
      rw [List.eraseDups_append]
      by_cases hlast : last ∈ front
      · have hnone : [last].removeAll front = [] := by simp [List.removeAll, hlast]
        rw [hnone, List.eraseDups_nil, List.append_nil]
        exact hkept
      · have hone : [last].removeAll front = [last] := by simp [List.removeAll, hlast]
        rw [hone, List.pairwise_append]
        refine ⟨hkept, List.pairwise_singleton _ _, fun entry hentry other hother => ?_⟩
        obtain rfl : other = last := by simpa using hother
        have hmem : entry ∈ front := List.mem_eraseDups.mp hentry
        rw [hfront entry hentry, List.idxOf_append, if_neg hlast]
        have hlt : front.idxOf entry < front.length := List.idxOf_lt_length_of_mem hmem
        omega

theorem nodup_eraseDups (entries : List String) : entries.eraseDups.Nodup :=
  (pairwise_idxOf_eraseDups entries).imp fun hlt heq => by
    rw [heq] at hlt
    exact Nat.lt_irrefl _ hlt

/-- Entries that are there once are all kept. -/
theorem eraseDups_of_nodup {entries : List String} (h : entries.Nodup) :
    entries.eraseDups = entries := by
  induction entries with
  | nil => rfl
  | cons first rest ih =>
      obtain ⟨hfirst, hrest⟩ := List.nodup_cons.mp h
      have hkept : rest.filter (fun entry => !entry == first) = rest := by
        rw [List.filter_eq_self]
        intro entry hentry
        have hne : entry ≠ first := fun heq => hfirst (heq ▸ hentry)
        simpa using hne
      rw [List.eraseDups_cons, hkept, ih hrest]

/-- **Keeping the first of equal entries** behind defaults that are all different. -/
theorem keepsFirsts_eraseDups {defaults : List String} (h : defaults.Nodup) (added : List String) :
    KeepsFirsts defaults added (defaults ++ added).eraseDups where
  starts := by
    have hprefix := eraseDups_prefix (List.prefix_append defaults added)
    rwa [eraseDups_of_nodup h] at hprefix
  nodup := nodup_eraseDups _
  mem entry := by rw [List.mem_eraseDups, List.mem_append]
  ordered := pairwise_idxOf_eraseDups _

/-! ## Extensions -/

/-- An extension that is not empty is added with one dot in front, or as it is if it starts with
one; empty ones are left out. -/
theorem mem_dottedExtensions {extensions : List String} {ending : String} :
    ending ∈ dottedExtensions extensions ↔ ∃ given ∈ extensions, given ≠ "" ∧
      ending = if given.toList.head? = some '.' then given else "." ++ given := by
  have hdotted : ∀ given ≠ "", Path.dotted given =
      if given.toList.head? = some '.' then given else "." ++ given := by
    intro given hne
    unfold Path.dotted
    by_cases hdot : given.toList.head? = some '.' <;> simp [hdot, hne]
  unfold dottedExtensions
  rw [List.mem_map]
  constructor
  · rintro ⟨given, hgiven, rfl⟩
    obtain ⟨hmem, hne⟩ := List.mem_filter.mp hgiven
    have hne : given ≠ "" := by simpa using hne
    exact ⟨given, hmem, hne, hdotted given hne⟩
  · rintro ⟨given, hmem, hne, rfl⟩
    exact ⟨given, List.mem_filter.mpr ⟨hmem, by simpa using hne⟩, hdotted given hne⟩

namespace Options

variable {options : Options} {ending : String}

theorem keepsFirsts_allowed (options : Options) :
    KeepsFirsts Layout.extensions (dottedExtensions options.extraExtensions)
      options.rules.allowed :=
  keepsFirsts_eraseDups (by decide) _

theorem keepsFirsts_fields (options : Options) :
    KeepsFirsts Layout.packageFields options.extraPackageFields options.rules.fields :=
  keepsFirsts_eraseDups (by decide) _

theorem mem_allowed_iff : ending ∈ options.rules.allowed ↔
    ending ∈ Layout.extensions ∨ ∃ given ∈ options.extraExtensions, given ≠ "" ∧
      ending = if given.toList.head? = some '.' then given else "." ++ given := by
  rw [(keepsFirsts_allowed options).mem, mem_dottedExtensions]

/-- An extension that is allowed starts with a dot. -/
theorem head?_of_mem_allowed (h : ending ∈ options.rules.allowed) :
    ending.toList.head? = some '.' := by
  have hdefaults : ∀ other ∈ Layout.extensions, other.toList.head? = some '.' := by decide
  rcases mem_allowed_iff.mp h with hdefault | ⟨given, -, -, rfl⟩
  · exact hdefaults ending hdefault
  · split
    · assumption
    · rw [String.toList_append]
      rfl

/-- The extensions that are allowed hold no slash when those that a caller adds hold none. -/
theorem slash_not_mem_of_mem_allowed
    (h : ∀ extension ∈ options.extraExtensions, '/' ∉ extension.toList)
    (hmem : ending ∈ options.rules.allowed) : '/' ∉ ending.toList := by
  have hdefaults : ∀ other ∈ Layout.extensions, '/' ∉ other.toList := by decide
  rcases mem_allowed_iff.mp hmem with hdefault | ⟨given, hgiven, -, rfl⟩
  · exact hdefaults ending hdefault
  · have hslash := h given hgiven
    split
    · exact hslash
    · rw [String.toList_append, List.mem_append, not_or]
      exact ⟨by decide, hslash⟩

end Options

end ModuleResolution
