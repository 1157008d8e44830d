import ModuleResolution.Proofs.Path.Normal
import ModuleResolution.Resolve.Listing

/-! # Lawful disks

On a disk that a system can have every entry has the name of an entry: it is not empty, neither
`.` nor `..`, and holds neither a slash nor the character NUL. What is listed below a folder is
made of such names, so on a lawful disk every path that is listed from a possible one is possible
(`isImpossible_of_mem_paths`), and so is every path that leads anywhere
(`isImpossible_of_kind?`).
-/

set_option autoImplicit false

namespace ModuleResolution

/-! ## Names of entries -/

instance (name : String) : Decidable (Path.IsLegible name) :=
  inferInstanceAs (Decidable (Path.isName name = true ∧ '/' ∉ name.toList))

/-- A name that an entry of a folder can have. -/
def IsEntryName (name : String) : Prop :=
  Path.IsLegible name ∧ name ≠ ".." ∧ Disk.isImpossible name = false

instance : DecidablePred IsEntryName := fun name =>
  inferInstanceAs (Decidable (Path.IsLegible name ∧ name ≠ ".." ∧ Disk.isImpossible name = false))

namespace Folder

variable {α : Type} {p : String → Prop} {folder below : Folder α}

/-- Every entry of a folder, and of the folders in it, has a name with some property. -/
def AllNames (p : String → Prop) : Folder α → Prop
  | .empty => True
  | .file name _ rest => p name ∧ rest.AllNames p
  | .subfolder name below rest => p name ∧ below.AllNames p ∧ rest.AllNames p

/-- Whether every entry has a name with a property can be decided when the property can. -/
def decideAllNames (p : String → Prop) [DecidablePred p] :
    (folder : Folder α) → Decidable (folder.AllNames p)
  | .empty => .isTrue trivial
  | .file _ _ rest =>
    have := decideAllNames p rest
    inferInstanceAs (Decidable (_ ∧ _))
  | .subfolder _ below rest =>
    have := decideAllNames p below
    have := decideAllNames p rest
    inferInstanceAs (Decidable (_ ∧ _ ∧ _))

instance [DecidablePred p] : Decidable (folder.AllNames p) := decideAllNames p folder

theorem AllNames.shape (h : folder.AllNames p) : folder.shape.AllNames p := by
  induction folder with
  | empty => exact trivial
  | file name content rest ih => exact ⟨h.1, ih h.2⟩
  | subfolder name below rest ihbelow ihrest => exact ⟨h.1, ihbelow h.2.1, ihrest h.2.2⟩

theorem AllNames.get? {name : String} (h : folder.AllNames p)
    (hget : folder.get? name = some (.folder below)) : below.AllNames p := by
  induction folder with
  | empty => simp [Folder.get?] at hget
  | file other content rest ih =>
      rw [Folder.get?] at hget
      split at hget
      · simp at hget
      · exact ih h.2 hget
  | subfolder other inner rest ihinner ihrest =>
      rw [Folder.get?] at hget
      split at hget
      · simp only [Option.some.injEq, Item.folder.injEq] at hget
        exact hget ▸ h.2.1
      · exact ihrest h.2.2 hget

theorem AllNames.at? {location : List String} (h : folder.AllNames p)
    (hat : folder.at? location = some (.folder below)) : below.AllNames p := by
  induction location generalizing folder with
  | nil =>
      simp only [Folder.at?, Option.some.injEq, Item.folder.injEq] at hat
      exact hat ▸ h
  | cons name rest ih =>
      cases rest with
      | nil => exact h.get? hat
      | cons next rest =>
          rw [Folder.at?] at hat
          · split at hat
            · next inner hget => exact ih (h.get? hget) hat
            · simp at hat
          · simp

/-! ## What is listed below a folder -/

theorem AllNames.fileNames (h : folder.AllNames p) {name : String}
    (hname : name ∈ folder.fileNames) : p name := by
  induction folder with
  | empty => simp [Folder.fileNames] at hname
  | file other content rest ih =>
      rcases List.mem_cons.mp hname with rfl | hname
      · exact h.1
      · exact ih h.2 hname
  | subfolder other inner rest ihinner ihrest => exact ihrest h.2.2 hname

/-- The locations that are arranged are the files, and what the branches lead to. -/
theorem mem_arrange {files : List String} {branches : List (String × List (List String))}
    {location : List String} :
    location ∈ arrange files branches ↔ (∃ name ∈ files, location = [name]) ∨
      ∃ branch ∈ branches, ∃ rest ∈ branch.2, location = branch.1 :: rest := by
  simp only [arrange, List.mem_append, List.mem_map, List.mem_flatMap, List.mem_mergeSort,
    eq_comm (a := location)]

/-- The names on the way to what a branch leads to. -/
theorem AllNames.branches (h : folder.AllNames p) {keep : String → Bool}
    {branch : String × List (List String)} (hbranch : branch ∈ folder.branches keep) :
    p branch.1 ∧ ∀ location ∈ branch.2, ∀ name ∈ location, p name := by
  induction folder generalizing branch with
  | empty => simp [Folder.branches] at hbranch
  | file other content rest ih => exact ih h.2 hbranch
  | subfolder other inner rest ihinner ihrest =>
      rcases List.mem_cons.mp hbranch with rfl | hbranch
      · refine ⟨h.1, ?_⟩
        intro location hlocation name hname
        rcases mem_arrange.mp hlocation with ⟨file, hfile, rfl⟩ | ⟨next, hnext, tail, htail, rfl⟩
        · rw [List.mem_singleton.mp hname]
          exact h.2.1.fileNames (List.mem_filter.mp hfile).1
        · obtain ⟨hfirst, hothers⟩ := ihinner h.2.1 hnext
          rcases List.mem_cons.mp hname with rfl | hname
          · exact hfirst
          · exact hothers tail htail name hname
      · exact ihrest h.2.2 hbranch

/-- **The names on the way to a file** below a folder are those of entries. -/
theorem AllNames.walk (h : folder.AllNames p) {keep : String → Bool} {location : List String}
    (hlocation : location ∈ folder.walk keep) {name : String} (hname : name ∈ location) :
    p name := by
  rcases mem_arrange.mp hlocation with ⟨file, hfile, rfl⟩ | ⟨branch, hbranch, rest, hrest, rfl⟩
  · rw [List.mem_singleton.mp hname]
    exact h.fileNames (List.mem_filter.mp hfile).1
  · obtain ⟨hfirst, hothers⟩ := h.branches hbranch
    rcases List.mem_cons.mp hname with rfl | hname
    · exact hfirst
    · exact hothers rest hrest name hname

end Folder

/-! ## Possible paths -/

namespace Disk

/-- Every entry of the disk has a name that an entry can have. -/
def IsLawful (disk : Disk) : Prop := disk.AllNames IsEntryName

instance (disk : Disk) : Decidable disk.IsLawful :=
  inferInstanceAs (Decidable (disk.AllNames IsEntryName))

theorem isImpossible_append (left right : String) :
    isImpossible (left ++ right) = (isImpossible left || isImpossible right) := by
  rw [isImpossible, String.toList_append, Bool.eq_iff_iff]
  simp [isImpossible]

theorem isImpossible_path_append {left right : String} (hleft : isImpossible left = false)
    (hright : isImpossible right = false) : isImpossible (Path.append left right) = false := by
  have hslash : isImpossible "/" = false := by decide
  unfold Path.append
  split
  · exact hright
  · split
    · rw [isImpossible_append, hleft, hright]
      rfl
    · rw [isImpossible_append, isImpossible_append, hleft, hslash, hright]
      rfl

/-- A path that leads anywhere is possible. -/
theorem isImpossible_of_kind? {disk : Disk} {cwd path : String} {kind : Kind}
    (h : disk.kind? cwd path = some kind) : isImpossible path = false := by
  by_contra hpath
  rw [Bool.not_eq_false] at hpath
  simp [kind?, item, locate, hpath] at h

/-- Following the pieces of a path, one can only miss a name or meet a file. -/
theorem fault_of_follow {disk : Disk} {location pieces : List String} {fault : DiskFault}
    (h : disk.follow location pieces = .error fault) : fault = .missing ∨ fault = .notFolder := by
  induction pieces generalizing location with
  | nil => cases h
  | cons piece rest ih =>
      rw [follow] at h
      split at h
      · cases h
        exact Or.inl rfl
      · cases h
        exact Or.inr rfl
      · split at h
        · exact ih h
        · split at h
          · exact ih h
          · split at h
            · cases h
              exact Or.inl rfl
            · exact ih h

/-- A possible path is never refused as impossible. -/
theorem item_ne_impossible {disk : Disk} {cwd path : String} (hpath : isImpossible path = false) :
    disk.item cwd path ≠ .error .impossible := by
  intro h
  unfold item locate at h
  rw [if_neg (by simp [hpath])] at h
  split at h
  · next fault hlocate =>
      cases h
      split at hlocate
      · cases hlocate
      · rcases fault_of_follow hlocate with hfault | hfault <;> cases hfault
  · split at h
    · cases h
    · cases h

theorem readText_ne_impossible {disk : Disk} {cwd path other : String}
    (hpath : isImpossible path = false) :
    disk.readText cwd path ≠ .error (.unreachable ⟨.impossible, other⟩) := by
  intro h
  unfold readText readOctets at h
  split at h
  · next failure hoctets =>
      cases h
      split at hoctets
      · cases hoctets
      · cases hoctets
      · next fault hitem =>
          cases hoctets
          exact item_ne_impossible hpath hitem
  · split at h <;> cases h

/-- What a text is read from is a file. -/
theorem kind?_of_readText {disk : Disk} {cwd path text : String}
    (h : disk.readText cwd path = .ok text) : disk.kind? cwd path = some .file := by
  unfold readText readOctets at h
  unfold kind?
  split at h
  · cases h
  · next octets hoctets =>
      split at hoctets
      · next content hitem =>
          rw [hitem]
          rfl
      · cases hoctets
      · cases hoctets

theorem AllNames.shapeAt {p : String → Prop} {disk : Disk} (h : disk.AllNames p)
    (cwd path : String) : (disk.shapeAt cwd path).AllNames p := by
  unfold Disk.shapeAt
  split
  · next below hitem =>
      unfold item at hitem
      split at hitem
      · cases hitem
      · next location hlocate =>
          split at hitem
          · cases hitem
          · next found hat =>
              cases hitem
              exact (Folder.AllNames.at? h hat).shape
  · exact trivial

end Disk

namespace Listing

theorem isImpossible_pathOf {directory : String} (h : Disk.isImpossible directory = false)
    {location : List String} (hnames : ∀ name ∈ location, Disk.isImpossible name = false) :
    Disk.isImpossible (pathOf directory location) = false := by
  induction location generalizing directory with
  | nil => exact h
  | cons name rest ih =>
      refine ih (Disk.isImpossible_path_append h (hnames name List.mem_cons_self)) ?_
      exact fun other hother => hnames other (List.mem_cons_of_mem _ hother)

/-- **Listed paths are possible** on a lawful disk. -/
theorem isImpossible_of_mem_paths {disk : Disk} (hdisk : disk.IsLawful)
    {cwd directory path : String}
    (hdirectory : Disk.isImpossible directory = false) {filter : Filter}
    (h : path ∈ paths directory filter true (disk.shapeAt cwd directory)) :
    Disk.isImpossible path = false := by
  obtain ⟨location, hlocation, rfl⟩ := List.mem_map.mp h
  refine isImpossible_pathOf hdirectory fun name hname => ?_
  exact ((Disk.AllNames.shapeAt hdisk cwd directory).walk hlocation hname).2.2

end Listing

end ModuleResolution
