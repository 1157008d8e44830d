import Mathlib.Data.List.Find
import ModuleResolution.Path.Extension
import ModuleResolution.Proofs.Path.Normal

/-! # Stems

The extension of a file name is the end of that name, behind a stem (`exists_stem`), whatever
extensions count as a whole. `clearExtension` cuts a text by the length of an extension that was
read off the normal form; on a text that is a normal form itself it therefore cuts the last name at
its stem (`exists_parts`, `clearExtension_render`) and leaves a root alone (`clearExtension_root`),
and nothing is lost (`clearExtensionWith_append_extension`).

Behind a stem without dots the extension is what the rest of the name tells (`tailExtension`,
`extensionOfName_append`). That is all of the rest when it has one dot or is a compound extension,
and else only a part of it.
-/

set_option autoImplicit false

namespace ModuleResolution.Path

/-- The extension from the last dot stands behind other characters, unless there is none. -/
theorem lastExtension_cases (name : String) :
    lastExtension name = "" ∨ ∃ stem ≠ "", stem ++ lastExtension name = name := by
  unfold lastExtension
  dsimp only
  split
  · exact Or.inl rfl
  · next c before hdrop =>
    split
    · next hany =>
      right
      -- behind the characters after the last dot stands that dot
      have hparts := List.takeWhile_append_dropWhile (p := (· != '.')) (l := name.toList.reverse)
      rw [hdrop] at hparts
      have hc : c = '.' := by
        have hhead := List.head?_dropWhile_not (· != '.') name.toList.reverse
        rw [hdrop] at hhead
        simpa using hhead
      have hback := congrArg List.reverse hparts
      rw [List.reverse_reverse, List.reverse_append, List.reverse_cons, hc, List.append_assoc]
        at hback
      refine ⟨String.ofList before.reverse, ?_, ?_⟩
      · rintro hempty
        have hbefore : before = [] := by simpa using hempty
        simp [hbefore] at hany
      · rw [← String.toList_inj, String.toList_append, String.toList_ofList, String.toList_ofList]
        exact hback
    · exact Or.inl rfl

/-- What a name carries stands behind other characters. -/
theorem exists_of_carries {name compound : String} (h : carries name compound = true) :
    ∃ stem ≠ "", stem ++ compound = name := by
  rw [carries, Bool.and_eq_true, List.isSuffixOf_iff_suffix, decide_eq_true_iff] at h
  obtain ⟨⟨front, hfront⟩, hlength⟩ := h
  have hname : String.ofList front ++ compound = name := by
    rw [← String.toList_inj, String.toList_append, String.toList_ofList]
    exact hfront
  refine ⟨String.ofList front, ?_, hname⟩
  rintro hempty
  rw [← hname, hempty, String.empty_append] at hlength
  exact Nat.lt_irrefl _ hlength

/-- **A file name is a stem and an extension**, and where there is an extension there is a stem. -/
theorem exists_stem (compounds : List String) (name : String) :
    ∃ stem, stem ++ extensionOfName compounds name = name ∧
      (extensionOfName compounds name ≠ "" → stem ≠ "") := by
  have hcases : extensionOfName compounds name = "" ∨
      ∃ stem ≠ "", stem ++ extensionOfName compounds name = name := by
    unfold extensionOfName
    cases hfind : compounds.find? (carries name) with
    | none => exact lastExtension_cases name
    | some compound => exact Or.inr (exists_of_carries (List.find?_some hfind))
  rcases hcases with hnone | ⟨stem, hstem, hname⟩
  · exact ⟨name, by rw [hnone, String.append_empty], fun h => absurd hnone h⟩
  · exact ⟨stem, hname, fun _ => hstem⟩

/-- An extension is the end of its file name. -/
theorem extensionOfName_suffix (compounds : List String) (name : String) :
    (extensionOfName compounds name).toList <:+ name.toList := by
  obtain ⟨stem, hname, -⟩ := exists_stem compounds name
  exact ⟨stem.toList, by rw [← String.toList_append, hname]⟩

/-- Cutting off an end of a text by its length leaves what is before it. -/
theorem clearExtensionWith_eq {compounds : List String} {text front : String}
    (h : front ++ extensionWith compounds text = text) :
    clearExtensionWith compounds text = front := by
  have hchars : text.toList = front.toList ++ (extensionWith compounds text).toList := by
    rw [← String.toList_append, h]
  have hlength : text.length = front.toList.length + (extensionWith compounds text).length := by
    have hlengths := congrArg List.length hchars
    rwa [List.length_append] at hlengths
  rw [clearExtensionWith, hlength, Nat.add_sub_cancel, hchars, List.take_left, String.ofList_toList]

/-- A normal path ends with its file name, in front of which there is nothing or a slash. -/
theorem exists_eq_append_fileName {text : String} (h : normalize text = text) :
    ∃ front, text = front ++ fileName text ∧
      (front ≠ "" → front.toList.getLast? = some '/') := by
  obtain ⟨path, hpath⟩ : ∃ path, read text = path := ⟨_, rfl⟩
  have htext : text = path.render := by rw [← hpath]; exact h.symm
  obtain ⟨anchor, names⟩ := path
  rcases List.eq_nil_or_concat names with rfl | ⟨above, name, rfl⟩
  · rw [htext]
    cases anchor with
    | relative => exact ⟨"", by decide, by decide⟩
    | root => exact ⟨"/", by decide, by decide⟩
    | doubleRoot => exact ⟨"//", by decide, by decide⟩
  · rw [List.concat_eq_append] at hpath htext
    obtain ⟨front, hrender, hfront⟩ := exists_render_concat anchor above
    refine ⟨front, ?_, hfront⟩
    rw [fileName_of_names (congrArg Path.names hpath), htext, hrender]

/-- **A normal path in three parts**: what is in front of its last name, the stem of that name and
its extension. What is left without the extension are the other two. -/
theorem exists_parts (compounds : List String) {text : String} (h : normalize text = text) :
    ∃ front stem, clearExtensionWith compounds text = front ++ stem ∧
      text = front ++ fileName text ∧ fileName text = stem ++ extensionWith compounds text ∧
      (front ≠ "" → front.toList.getLast? = some '/') ∧
      (extensionWith compounds text ≠ "" → stem ≠ "") := by
  obtain ⟨front, htext, hfront⟩ := exists_eq_append_fileName h
  obtain ⟨stem, hname, hstem⟩ := exists_stem compounds (fileName text)
  have hsplit : front ++ stem ++ extensionWith compounds text = text := by
    rw [String.append_assoc, extensionWith, hname]
    exact htext.symm
  exact ⟨front, stem, clearExtensionWith_eq hsplit, htext, hname.symm, hfront, hstem⟩

/-- **Nothing is lost** when a normal path is taken apart into its stem and its extension. -/
theorem clearExtensionWith_append_extension (compounds : List String) {text : String}
    (h : normalize text = text) :
    clearExtensionWith compounds text ++ extensionWith compounds text = text := by
  obtain ⟨front, stem, hclear, htext, hname, -⟩ := exists_parts compounds h
  rw [hclear, String.append_assoc, ← hname]
  exact htext.symm

/-- **The stem of a normal path**: its last name is cut, and its folder stays. -/
theorem clearExtension_render {anchor : Anchor} {names : List String} {name : String}
    (h : IsNormal ⟨anchor, names ++ [name]⟩) :
    ∃ stem, '/' ∉ stem.toList ∧
      clearExtension (render ⟨anchor, names ++ [name]⟩) = render ⟨anchor, names ++ [stem]⟩ := by
  have hname : fileName (render ⟨anchor, names ++ [name]⟩) = name :=
    fileName_of_names (congrArg Path.names (read_render h))
  obtain ⟨stem, hstem, -⟩ := exists_stem compoundExtensions name
  have hslash : '/' ∉ name.toList := (h.legible name (by simp)).2
  refine ⟨stem, ?_, ?_⟩
  · intro hmem
    apply hslash
    rw [← hstem, String.toList_append]
    exact List.mem_append_left _ hmem
  · apply clearExtensionWith_eq
    rw [extensionWith, hname, render_append, hstem]

/-- A root has no extension to cut off. -/
theorem clearExtension_root {anchor : Anchor} (ha : anchor ≠ .relative) :
    clearExtension (render ⟨anchor, []⟩) = render ⟨anchor, []⟩ := by
  cases anchor with
  | relative => exact absurd rfl ha
  | root => decide
  | doubleRoot => decide

/-! ## Stems without dots -/

section

variable {stem ending : String}

/-- What counts as the extension of a name that ends like this behind a stem without dots: the
compound extension that it ends in, and else its part from the last dot. -/
def tailExtension (ending : String) : String :=
  (compoundExtensions.find? fun compound => compound.toList.isSuffixOf ending.toList).getD
    (String.ofList ('.' :: (ending.toList.reverse.takeWhile (· != '.')).reverse))

/-- What starts with a dot does not reach into a stem without dots. -/
theorem dot_suffix_append_iff {front back rest : List Char} (hdots : '.' ∉ front) :
    '.' :: rest <:+ front ++ back ↔ '.' :: rest <:+ back := by
  induction front with
  | nil => rfl
  | cons c front ih =>
      rw [List.mem_cons, not_or] at hdots
      rw [List.cons_append, List.suffix_cons_iff, List.cons.injEq, ih hdots.2]
      exact or_iff_right fun h => hdots.1 h.1

theorem head?_of_mem_compoundExtensions {compound : String} (h : compound ∈ compoundExtensions) :
    ∃ rest, compound.toList = '.' :: rest ∧ '.' ∈ rest := by
  simp only [compoundExtensions, List.mem_cons, List.not_mem_nil, or_false] at h
  rcases h with rfl | rfl | rfl
  · exact ⟨['d', '.', 't', 's'], rfl, by decide⟩
  · exact ⟨['d', '.', 'm', 't', 's'], rfl, by decide⟩
  · exact ⟨['d', '.', 'c', 't', 's'], rfl, by decide⟩

/-- A name with a stem carries the compound extensions that its ending ends in. -/
theorem carries_append (hstem : stem ≠ "") (hdots : '.' ∉ stem.toList) {compound : String}
    (hcompound : compound ∈ compoundExtensions) :
    carries (stem ++ ending) compound = compound.toList.isSuffixOf ending.toList := by
  obtain ⟨rest, hrest, -⟩ := head?_of_mem_compoundExtensions hcompound
  rw [carries, Bool.eq_iff_iff, Bool.and_eq_true, List.isSuffixOf_iff_suffix,
    List.isSuffixOf_iff_suffix, String.toList_append, hrest, dot_suffix_append_iff hdots, ← hrest]
  refine and_iff_left_of_imp fun hsuffix => ?_
  have hle : compound.length ≤ ending.length := hsuffix.length_le
  have hpos : 0 < stem.length := by
    rw [Nat.pos_iff_ne_zero, ne_eq, String.length_eq_zero_iff]
    exact hstem
  rw [String.length_append, decide_eq_true_iff]
  omega

theorem bne_dot_of_mem {chars : List Char} (h : '.' ∉ chars) {c : Char} (hc : c ∈ chars) :
    (c != '.') = true := by
  rw [bne_iff_ne]
  rintro rfl
  exact h hc

theorem lastExtension_append (hstem : stem ≠ "") (hdots : '.' ∉ stem.toList)
    (hending : '.' ∈ ending.toList) :
    lastExtension (stem ++ ending) =
      String.ofList ('.' :: (ending.toList.reverse.takeWhile (· != '.')).reverse) := by
  -- behind the last dot there is none, and what is before it holds the stem
  obtain ⟨behind, before, hsplit, hbehind⟩ :=
    List.eq_append_cons_of_mem (List.mem_reverse.mpr hending)
  have hall : ∀ c ∈ behind, (c != '.') = true := fun c => bne_dot_of_mem hbehind
  have hreversed : (stem ++ ending).toList.reverse =
      behind ++ '.' :: (before ++ stem.toList.reverse) := by
    rw [String.toList_append, List.reverse_append, hsplit, List.append_assoc, List.cons_append]
  have hany : (before ++ stem.toList.reverse).any (· != '.') = true := by
    obtain ⟨c, hc⟩ := List.exists_mem_of_ne_nil stem.toList (by simpa using hstem)
    exact List.any_eq_true.mpr ⟨c, by simp [hc], bne_dot_of_mem hdots hc⟩
  unfold lastExtension
  dsimp only
  rw [hreversed, hsplit, List.dropWhile_append_of_pos hall, List.takeWhile_append_of_pos hall,
    List.takeWhile_append_of_pos hall, List.dropWhile_cons_of_neg (by simp),
    List.takeWhile_cons_of_neg (by simp), List.takeWhile_cons_of_neg (by simp)]
  dsimp only
  rw [if_pos hany]

/-- **The extension of a name with a stem** only depends on what follows the stem. -/
theorem extensionOfName_append (hstem : stem ≠ "") (hdots : '.' ∉ stem.toList)
    (hending : '.' ∈ ending.toList) :
    extensionOfName compoundExtensions (stem ++ ending) = tailExtension ending := by
  rw [extensionOfName, tailExtension, lastExtension_append hstem hdots hending]
  congr 1
  exact List.find?_congr fun compound hcompound => carries_append hstem hdots hcompound

example : tailExtension ".module.css" = ".css" ∧ tailExtension ".vue.d.ts" = ".d.ts" := by
  decide +kernel

/-- **A compound extension counts as a whole.** -/
theorem tailExtension_of_mem (h : ending ∈ compoundExtensions) : tailExtension ending = ending := by
  simp only [compoundExtensions, List.mem_cons, List.not_mem_nil, or_false] at h
  rcases h with rfl | rfl | rfl <;> decide +kernel

/-- **An extension with no other dot than its first counts as a whole.** -/
theorem tailExtension_of_single (hhead : ending.toList.head? = some '.')
    (hsingle : '.' ∉ ending.toList.tail) : tailExtension ending = ending := by
  obtain ⟨tail, htail⟩ : ∃ tail, ending.toList = '.' :: tail := List.head?_eq_some_iff.mp hhead
  rw [htail, List.tail_cons] at hsingle
  have hnone : (compoundExtensions.find? fun compound =>
      compound.toList.isSuffixOf ('.' :: tail)) = none := by
    -- each of them has a second dot
    refine List.find?_eq_none.mpr fun compound hmem hsuffix => ?_
    obtain ⟨rest, hrest, hdot⟩ := head?_of_mem_compoundExtensions hmem
    rw [List.isSuffixOf_iff_suffix, hrest, List.suffix_cons_iff, List.cons.injEq] at hsuffix
    rcases hsuffix with ⟨-, rfl⟩ | hinner
    · exact hsingle hdot
    · exact hsingle (hinner.subset List.mem_cons_self)
  have hall : ∀ c ∈ tail.reverse, (c != '.') = true :=
    fun c hc => bne_dot_of_mem hsingle (List.mem_reverse.mp hc)
  rw [tailExtension, htail, hnone, Option.getD_none, List.reverse_cons,
    List.takeWhile_append_of_pos hall, List.takeWhile_cons_of_neg (by simp), List.append_nil,
    List.reverse_reverse, ← htail, String.ofList_toList]

end

end ModuleResolution.Path
