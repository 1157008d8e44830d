import ModuleResolution.Proofs.Path.Lineage
import ModuleResolution.Proofs.Path.Stem

/-! # Taking extensions off

The extension of a path is the end of its last name, so it holds no slash, and cutting it off a
normal path leaves a text that it can be put behind again. Where there is an extension something is
left of the last name, too. And since it is read off the last name alone, a file has the same
extension by its bare name and by any path to it. All of this holds whatever extensions count as a
whole (`splitsExtensions`).

What is left of a name is a text and need not be a name again: of `..d.ts` the dot in front is left.
-/

set_option autoImplicit false

namespace ModuleResolution.Path

variable {text name : String}

/-! ## No slashes -/

theorem slash_not_mem_fileName (text : String) : '/' ∉ (fileName text).toList := by
  rcases List.eq_nil_or_concat (read text).names with hnone | ⟨above, name, hnames⟩
  · unfold fileName
    split
    · decide
    · next hread =>
      rw [hread] at hnone
      dsimp only at hnone
      simp [hnone]
  · rw [List.concat_eq_append] at hnames
    rw [fileName_of_names hnames]
    exact ((isNormal_read text).legible name (by simp [hnames])).2

theorem slash_not_mem_extensionWith (compounds : List String) (text : String) :
    '/' ∉ (extensionWith compounds text).toList := by
  intro hslash
  exact slash_not_mem_fileName text ((extensionOfName_suffix compounds _).subset hslash)

/-- **What is left of the last name** when the extension of a normal path is cut off. -/
theorem exists_stem_getLast? (compounds : List String) (h : normalize text = text)
    (hextension : extensionWith compounds text ≠ "") :
    ∃ stem ≠ "", stem ++ extensionWith compounds text = fileName text ∧
      (pieces (clearExtensionWith compounds text)).getLast? = some stem := by
  obtain ⟨front, stem, hclear, -, hname, hfront, hstem⟩ := exists_parts compounds h
  refine ⟨stem, hstem hextension, hname.symm, ?_⟩
  rw [hclear]
  refine getLast?_pieces_append hfront fun hslash => slash_not_mem_fileName text ?_
  rw [hname, String.toList_append]
  exact List.mem_append_left _ hslash

/-! ## Bare names and paths -/

theorem fileName_of_isLegible (hname : IsLegible name) (hdots : name ≠ "..") :
    fileName name = name := by
  have hbare : append "" name = name := by
    rw [append, if_neg (by simp [isAbsolute_of_isLegible hname]), if_pos (by simp),
      String.empty_append]
  have hlast := fileName_append "" hname hdots
  rwa [hbare] at hlast

theorem extensionWith_append (compounds : List String) (directory : String)
    (hname : IsLegible name) (hdots : name ≠ "..") :
    extensionWith compounds (append directory name) = extensionWith compounds name := by
  rw [extensionWith, extensionWith, fileName_append directory hname hdots,
    fileName_of_isLegible hname hdots]

/-- **A file has the same extension by its name and by its path.** -/
theorem extensionWith_join (compounds : List String) (directory : String)
    (hname : IsLegible name) (hdots : name ≠ "..") :
    extensionWith compounds (join [directory, name]) = extensionWith compounds name := by
  rw [← extensionWith_append compounds directory hname hdots]
  exact congrArg (extensionOfName compounds) (fileName_normalize (append directory name))

/-! ## The laws together -/

/-- What taking extensions off paths is expected to do, given the compound extensions. -/
structure SplitsExtensions (compounds : List String) : Prop where
  /-- Nothing is lost. -/
  lossless : ∀ text, normalize text = text →
    clearExtensionWith compounds text ++ extensionWith compounds text = text
  slash_not_mem : ∀ text, '/' ∉ (extensionWith compounds text).toList
  /-- Something is left of the last name, and stands behind the last slash of what is left. -/
  stem : ∀ text, normalize text = text → extensionWith compounds text ≠ "" →
    ∃ stem ≠ "", stem ++ extensionWith compounds text = fileName text ∧
      (pieces (clearExtensionWith compounds text)).getLast? = some stem
  /-- Where a file lies makes no difference. -/
  extension_join : ∀ directory name, name ≠ "" → '/' ∉ name.toList → name ≠ "." → name ≠ ".." →
    extensionWith compounds (join [directory, name]) = extensionWith compounds name

theorem splitsExtensions (compounds : List String) : SplitsExtensions compounds where
  lossless _ := clearExtensionWith_append_extension compounds
  slash_not_mem := slash_not_mem_extensionWith compounds
  stem _ := exists_stem_getLast? compounds
  extension_join directory _ hempty hslash hdot hdots :=
    extensionWith_join compounds directory ⟨by simp [isName, hempty, hdot], hslash⟩ hdots

example : normalize "/p/..d.ts" = "/p/..d.ts" ∧ extension "/p/..d.ts" = ".d.ts" ∧
    clearExtension "/p/..d.ts" = "/p/." := by
  decide +kernel

end ModuleResolution.Path
