import Mathlib.Data.List.Perm.Basic
import ModuleResolution.Proofs.Disk.Lawful
import ModuleResolution.Proofs.Disk.Location

/-! # Disks that look the same

Two folders have the same kinds when each location leads in both of them to a file, or in both to
a folder, or in both nowhere. The order in which they hold their entries may differ, but what is
listed below them may not, as long as no folder holds two entries of one name (`walk_eq`). So two
disks with the same kinds, and with the same octets in the files of some name, answer every
question in the same way that does not ask for the text of another file (`kind?_eq`, `paths_eq`,
`readText_eq`).
-/

set_option autoImplicit false

namespace ModuleResolution

namespace Folder

variable {α β : Type}

/-! ## Distinct names -/

/-- No folder holds two entries of one name. -/
def HasDistinctNames : Folder α → Prop
  | .empty => True
  | .file name _ rest => rest.get? name = none ∧ rest.HasDistinctNames
  | .subfolder name below rest =>
    rest.get? name = none ∧ below.HasDistinctNames ∧ rest.HasDistinctNames

def decideDistinctNames : (folder : Folder α) → Decidable folder.HasDistinctNames
  | .empty => .isTrue trivial
  | .file _ _ rest =>
    have := decideDistinctNames rest
    inferInstanceAs (Decidable (_ ∧ _))
  | .subfolder _ below rest =>
    have := decideDistinctNames below
    have := decideDistinctNames rest
    inferInstanceAs (Decidable (_ ∧ _ ∧ _))

instance (folder : Folder α) : Decidable folder.HasDistinctNames := decideDistinctNames folder

variable {folder below : Folder α} {name : String} {keep : String → Bool}

theorem HasDistinctNames.get? (h : folder.HasDistinctNames)
    (hget : folder.get? name = some (.folder below)) : below.HasDistinctNames := by
  induction folder with
  | empty => simp [Folder.get?] at hget
  | file other content rest ih =>
      rw [Folder.get?] at hget
      split at hget
      · simp at hget
      · exact ih h.2 hget
  | subfolder other inner rest ihinner ihrest =>
      rw [Folder.get?] at hget
      split at hget
      · simp only [Option.some.injEq, Item.folder.injEq] at hget
        exact hget ▸ h.2.1
      · exact ihrest h.2.2 hget

theorem HasDistinctNames.at? {location : List String} (h : folder.HasDistinctNames)
    (hat : folder.at? location = some (.folder below)) : below.HasDistinctNames := by
  induction location using List.reverseRecOn generalizing below with
  | nil =>
      simp only [Folder.at?, Option.some.injEq, Item.folder.injEq] at hat
      exact hat ▸ h
  | append_singleton front last ih =>
      obtain ⟨inner, hinner⟩ := exists_folder_of_at?_append hat (by simp)
      rw [at?_append hinner] at hat
      exact (ih hinner).get? hat

@[simp] theorem at?_singleton (name : String) (folder : Folder α) :
    folder.at? [name] = folder.get? name := rfl

/-! ## Entries -/

theorem get?_isSome_of_mem_fileNames (h : name ∈ folder.fileNames) :
    (folder.get? name).isSome = true := by
  induction folder with
  | empty => simp [fileNames] at h
  | file other content rest ih =>
      rw [get?]
      split
      · rfl
      · next hne =>
          rcases List.mem_cons.mp h with heq | h
          · exact absurd heq.symm hne
          · exact ih h
  | subfolder other inner rest ihinner ihrest =>
      rw [get?]
      split
      · rfl
      · exact ihrest h

theorem get?_isSome_of_mem_branches {branch : String × List (List String)}
    (h : branch ∈ folder.branches keep) : (folder.get? branch.1).isSome = true := by
  induction folder with
  | empty => simp [branches] at h
  | file other content rest ih =>
      rw [get?]
      split
      · rfl
      · exact ih h
  | subfolder other inner rest ihinner ihrest =>
      rw [get?]
      split
      · rfl
      · next hne =>
          rcases List.mem_cons.mp h with rfl | h
          · exact absurd rfl hne
          · exact ihrest h

/-- With distinct names, the names of files are those that lead to a file. -/
theorem mem_fileNames (h : folder.HasDistinctNames) :
    name ∈ folder.fileNames ↔ ∃ content, folder.get? name = some (.file content) := by
  induction folder with
  | empty => simp [fileNames, get?]
  | file other content rest ih =>
      rw [fileNames, List.mem_cons, ih h.2, get?]
      by_cases hname : other = name
      · simp [hname]
      · simp [hname, Ne.symm hname]
  | subfolder other inner rest ihinner ihrest =>
      rw [fileNames, ihrest h.2.2, get?]
      by_cases hname : other = name
      · have hnone : rest.get? name = none := hname ▸ h.1
        simp [hname, hnone]
      · simp [hname]

/-- With distinct names, the branches are what is below the folders that names lead to. -/
theorem mem_branches {locations : List (List String)} (h : folder.HasDistinctNames) :
    (name, locations) ∈ folder.branches keep ↔
      ∃ below, folder.get? name = some (.folder below) ∧ locations = below.walk keep := by
  induction folder with
  | empty => simp [branches, get?]
  | file other content rest ih =>
      rw [branches, ih h.2, get?]
      by_cases hname : other = name
      · have hnone : rest.get? name = none := hname ▸ h.1
        simp [hname, hnone]
      · simp [hname]
  | subfolder other inner rest ihinner ihrest =>
      rw [branches, List.mem_cons, ihrest h.2.2, get?]
      by_cases hname : other = name
      · have hnone : rest.get? name = none := hname ▸ h.1
        simp [hname, hnone, walk]
      · simp [hname, Ne.symm hname]

theorem nodup_fileNames (h : folder.HasDistinctNames) : folder.fileNames.Nodup := by
  induction folder with
  | empty => exact List.nodup_nil
  | file other content rest ih =>
      refine List.nodup_cons.mpr ⟨fun hmem => ?_, ih h.2⟩
      have hsome := get?_isSome_of_mem_fileNames hmem
      rw [h.1] at hsome
      cases hsome
  | subfolder other inner rest ihinner ihrest => exact ihrest h.2.2

theorem nodup_branches (h : folder.HasDistinctNames) : (folder.branches keep).Nodup := by
  induction folder with
  | empty => exact List.nodup_nil
  | file other content rest ih => exact ih h.2
  | subfolder other inner rest ihinner ihrest =>
      refine List.nodup_cons.mpr ⟨fun hmem => ?_, ihrest h.2.2⟩
      have hsome := get?_isSome_of_mem_branches hmem
      rw [h.1] at hsome
      cases hsome

/-! ## Walks -/

/-- What is sorted by a key comes in the order of the keys. -/
theorem pairwise_mergeSort_key {γ : Type} (key : γ → String) (xs : List γ) :
    (xs.mergeSort fun x y => decide (key x ≤ key y)).Pairwise fun x y => key x ≤ key y := by
  have hsorted : (xs.mergeSort fun x y => decide (key x ≤ key y)).Pairwise
      fun x y => decide (key x ≤ key y) = true := by
    refine List.pairwise_mergeSort (fun x y z hxy hyz => ?_) (fun x y => ?_) xs
    · rw [decide_eq_true_iff] at hxy hyz ⊢
      exact String.le_trans hxy hyz
    · simpa using String.le_total (key x) (key y)
  exact hsorted.imp of_decide_eq_true

/-- Sorting by a key that tells the elements apart does not depend on their order. -/
theorem mergeSort_eq_of_perm {γ : Type} {key : γ → String} {xs ys : List γ}
    (hkey : ∀ x ∈ xs, ∀ y ∈ xs, key x = key y → x = y) (h : xs.Perm ys) :
    xs.mergeSort (fun x y => decide (key x ≤ key y)) =
      ys.mergeSort fun x y => decide (key x ≤ key y) := by
  have hperm : (xs.mergeSort fun x y => decide (key x ≤ key y)).Perm
      (ys.mergeSort fun x y => decide (key x ≤ key y)) :=
    (List.mergeSort_perm xs _).trans (h.trans (List.mergeSort_perm ys _).symm)
  refine List.Perm.eq_of_pairwise (fun x y hx hy hxy hyx => ?_) (pairwise_mergeSort_key key xs)
    (pairwise_mergeSort_key key ys) hperm
  have hmem : y ∈ xs := h.mem_iff.mpr (List.mem_mergeSort.mp hy)
  exact hkey x (List.mem_mergeSort.mp hx) y hmem (String.le_antisymm hxy hyx)

/-- Each location leads to the same kind of item in both folders, or nowhere in both. -/
def SameKinds (first : Folder α) (second : Folder β) : Prop :=
  ∀ location, (first.at? location).map Item.kind = (second.at? location).map Item.kind

variable {first : Folder α} {second : Folder β}

theorem SameKinds.symm (h : first.SameKinds second) : second.SameKinds first :=
  fun location => (h location).symm

theorem SameKinds.at?_none {location : List String} (h : first.SameKinds second)
    (hat : first.at? location = none) : second.at? location = none := by
  have hkind := h location
  rwa [hat, Option.map_none, eq_comm, Option.map_eq_none_iff] at hkind

theorem SameKinds.at?_file {location : List String} {content : α} (h : first.SameKinds second)
    (hat : first.at? location = some (.file content)) :
    ∃ other, second.at? location = some (.file other) := by
  have hkind := h location
  rw [hat] at hkind
  rcases hsecond : second.at? location with _ | (other | other)
  · simp [hsecond] at hkind
  · exact ⟨other, rfl⟩
  · simp [hsecond, Item.kind] at hkind

/-- Folders at one location of folders with the same kinds have the same kinds. -/
theorem SameKinds.at?_folder {location : List String} {below : Folder α} (h : first.SameKinds second)
    (hat : first.at? location = some (.folder below)) :
    ∃ other, second.at? location = some (.folder other) ∧ below.SameKinds other := by
  have hkind := h location
  rw [hat] at hkind
  rcases hsecond : second.at? location with _ | (other | other)
  · simp [hsecond] at hkind
  · simp [hsecond, Item.kind] at hkind
  · refine ⟨other, rfl, fun behind => ?_⟩
    rw [← at?_append hat, ← at?_append hsecond]
    exact h (location ++ behind)

theorem SameKinds.get?_folder {below : Folder α} (h : first.SameKinds second)
    (hget : first.get? name = some (.folder below)) :
    ∃ other, second.get? name = some (.folder other) ∧ below.SameKinds other := by
  rw [← at?_singleton] at hget ⊢
  exact h.at?_folder hget

/-- A walk does not depend on the order of the entries, if the walks below do not. -/
theorem walk_eq_of_below (hfirst : first.HasDistinctNames) (hsecond : second.HasDistinctNames)
    (h : first.SameKinds second)
    (hbelow : ∀ name below other, first.get? name = some (.folder below) →
      second.get? name = some (.folder other) → below.walk keep = other.walk keep) :
    first.walk keep = second.walk keep := by
  -- files and branches are the same up to their order, and sorting by name forgets the order
  have hfiles : (first.fileNames.filter keep).Perm (second.fileNames.filter keep) := by
    refine List.Perm.filter _ ?_
    rw [List.perm_ext_iff_of_nodup (nodup_fileNames hfirst) (nodup_fileNames hsecond)]
    intro name
    rw [mem_fileNames hfirst, mem_fileNames hsecond]
    rw [← at?_singleton, ← at?_singleton]
    exact ⟨fun ⟨_, hat⟩ => h.at?_file hat, fun ⟨_, hat⟩ => h.symm.at?_file hat⟩
  have hbranches : (first.branches keep).Perm (second.branches keep) := by
    rw [List.perm_ext_iff_of_nodup (nodup_branches hfirst) (nodup_branches hsecond)]
    rintro ⟨name, locations⟩
    rw [mem_branches hfirst, mem_branches hsecond]
    constructor
    · rintro ⟨below, hget, rfl⟩
      obtain ⟨other, hother, -⟩ := h.get?_folder hget
      exact ⟨other, hother, hbelow name below other hget hother⟩
    · rintro ⟨other, hother, rfl⟩
      obtain ⟨below, hget, -⟩ := h.symm.get?_folder hother
      exact ⟨below, hget, (hbelow name below other hget hother).symm⟩
  have hkey : ∀ x ∈ first.branches keep, ∀ y ∈ first.branches keep, x.1 = y.1 → x = y := by
    rintro ⟨name, locations⟩ hx ⟨_, others⟩ hy rfl
    obtain ⟨below, hget, rfl⟩ := (mem_branches hfirst).mp hx
    obtain ⟨_, hsame, rfl⟩ := (mem_branches hfirst).mp hy
    rw [hget] at hsame
    cases hsame
    rfl
  rw [walk, walk, arrange, arrange, mergeSort_eq_of_perm hkey hbranches]
  congr 2
  exact mergeSort_eq_of_perm (fun _ _ _ _ heq => heq) hfiles

/-- The walks below the entries of a folder do not depend on the order of entries. -/
theorem walk_below_eq (hfirst : first.HasDistinctNames) {below : Folder α}
    (hget : first.get? name = some (.folder below)) {other : Folder β}
    (hother : other.HasDistinctNames) (h : below.SameKinds other) :
    below.walk keep = other.walk keep := by
  -- the statement is on the entries, so that it holds of the rest of a folder as well
  induction first generalizing name below other with
  | empty => simp [get?] at hget
  | file entry content rest ih =>
      rw [get?] at hget
      split at hget
      · simp at hget
      · exact ih hfirst.2 hget hother h
  | subfolder entry inner rest ihinner ihrest =>
      rw [get?] at hget
      split at hget
      · simp only [Option.some.injEq, Item.folder.injEq] at hget
        subst hget
        refine walk_eq_of_below hfirst.2.1 hother h fun name below next hbelow hnext => ?_
        obtain ⟨_, hsame, hkinds⟩ := h.get?_folder hbelow
        rw [hnext] at hsame
        cases hsame
        exact ihinner hfirst.2.1 hbelow (hother.get? hnext) hkinds
      · exact ihrest hfirst.2.2 hget hother h

/-- **Folders with the same kinds are walked in the same way**, in whatever order they hold their
entries. -/
theorem walk_eq (hfirst : first.HasDistinctNames) (hsecond : second.HasDistinctNames)
    (h : first.SameKinds second) (keep : String → Bool) :
    first.walk keep = second.walk keep := by
  refine walk_eq_of_below hfirst hsecond h fun name below other hbelow hother => ?_
  obtain ⟨_, hsame, hkinds⟩ := h.get?_folder hbelow
  rw [hother] at hsame
  cases hsame
  exact walk_below_eq hfirst hbelow (hsecond.get? hother) hkinds

@[simp] theorem fileNames_shape (folder : Folder α) :
    folder.shape.fileNames = folder.fileNames := by
  induction folder with
  | empty => rfl
  | file name content rest ih => rw [shape, fileNames, fileNames, ih]
  | subfolder name below rest ihbelow ihrest => rw [shape, fileNames, fileNames, ihrest]

@[simp] theorem branches_shape (keep : String → Bool) (folder : Folder α) :
    folder.shape.branches keep = folder.branches keep := by
  induction folder with
  | empty => rfl
  | file name content rest ih => rw [shape, branches, branches, ih]
  | subfolder name below rest ihbelow ihrest =>
      rw [shape, branches, branches, ihbelow, ihrest, fileNames_shape]

/-- What files hold makes no difference to a walk. -/
@[simp] theorem walk_shape (keep : String → Bool) (folder : Folder α) :
    folder.shape.walk keep = folder.walk keep := by
  rw [walk, walk, fileNames_shape, branches_shape]

end Folder

/-! ## Questions to disks that agree -/

namespace Disk

/-- Two disks have the same files and folders, and files of some name hold the same octets. -/
structure AgreeOn (name : String) (first second : Disk) : Prop where
  kinds : first.SameKinds second
  octets : ∀ location content, location.getLast? = some name →
    first.at? location = some (.file content) → second.at? location = some (.file content)

variable {first second : Disk}

/-- Disks agree when each name stands for nothing in both, for files that hold the same if they
have the name, or for folders that agree. -/
theorem agreeOn_of_get? {name : String} (h : ∀ next,
    (first.get? next = none ∧ second.get? next = none) ∨
    (∃ content other, first.get? next = some (.file content) ∧
      second.get? next = some (.file other) ∧ (next = name → content = other)) ∨
    ∃ below other, first.get? next = some (.folder below) ∧
      second.get? next = some (.folder other) ∧ AgreeOn name below other) :
    AgreeOn name first second where
  kinds location := by
    -- a location is empty, or a name, or goes on below a name, where the folders agree
    rcases location with _ | ⟨next, _ | ⟨inner, rest⟩⟩
    · rfl
    · rcases h next with ⟨hfirst, hsecond⟩ | ⟨_, _, hfirst, hsecond, -⟩ |
        ⟨_, _, hfirst, hsecond, -⟩ <;>
      rw [Folder.at?_singleton, Folder.at?_singleton, hfirst, hsecond] <;>
      rfl
    · rcases h next with ⟨hfirst, hsecond⟩ | ⟨_, _, hfirst, hsecond, -⟩ |
        ⟨_, _, hfirst, hsecond, hbelow⟩
      · simp [Folder.at?, hfirst, hsecond]
      · simp [Folder.at?, hfirst, hsecond]
      · simpa [Folder.at?, hfirst, hsecond] using hbelow.kinds (inner :: rest)
  octets location found hlast hat := by
    rcases location with _ | ⟨next, _ | ⟨inner, rest⟩⟩
    · cases hlast
    · obtain rfl : next = name := by simpa using hlast
      rw [Folder.at?_singleton] at hat ⊢
      rcases h next with ⟨hfirst, -⟩ | ⟨_, _, hfirst, hsecond, hsame⟩ | ⟨_, _, hfirst, -⟩
      · simp [hfirst] at hat
      · rwa [hsecond, ← hsame rfl, ← hfirst]
      · simp [hfirst] at hat
    · rcases h next with ⟨hfirst, -⟩ | ⟨_, _, hfirst, -⟩ | ⟨_, _, hfirst, hsecond, hbelow⟩
      · simp [Folder.at?, hfirst] at hat
      · simp [Folder.at?, hfirst] at hat
      · simp only [Folder.at?, hfirst, hsecond] at hat ⊢
        exact hbelow.octets (inner :: rest) found (by simpa using hlast) hat

/-- Disks with one folder at `/` and nothing else agree when the folders do. -/
theorem AgreeOn.subfolder {name : String} (h : AgreeOn name first second) (other : String) :
    AgreeOn name (.subfolder other first .empty) (.subfolder other second .empty) := by
  refine agreeOn_of_get? fun next => ?_
  by_cases hnext : other = next
  · exact Or.inr (Or.inr ⟨first, second, by simp [Folder.get?, hnext],
      by simp [Folder.get?, hnext], h⟩)
  · exact Or.inl (by simp [Folder.get?, hnext])

theorem follow_eq (h : first.SameKinds second) (location pieces : List String) :
    first.follow location pieces = second.follow location pieces := by
  induction pieces generalizing location with
  | nil => rfl
  | cons piece rest ih =>
      have hhere := h location
      have hthere := h (location ++ [piece])
      rw [follow, follow]
      rcases hfirst : first.at? location with _ | (_ | below) <;>
        rcases hsecond : second.at? location with _ | (_ | other) <;>
        simp only [hfirst, hsecond, Option.map_none, Option.map_some, Item.kind, reduceCtorEq,
          Option.some.injEq] at hhere
      · rfl
      · rfl
      · dsimp only
        rw [ih, ih, ih]
        -- the next name leads somewhere on both disks, or on neither
        cases hnext : first.at? (location ++ [piece]) with
        | none =>
            rw [hnext, Option.map_none, eq_comm, Option.map_eq_none_iff] at hthere
            rw [hthere]
        | some item =>
            rw [hnext, Option.map_some, eq_comm, Option.map_eq_some_iff] at hthere
            obtain ⟨found, hfound, -⟩ := hthere
            rw [hfound]

theorem item_of_locate {disk : Disk} {cwd path : String} {location : List String}
    (h : disk.locate cwd path = .ok location) :
    disk.item cwd path = match disk.at? location with
      | none => .error .missing
      | some item => .ok item := by
  cases hat : disk.at? location with
  | none => simp [item, h, hat]
  | some found => simp [item, h, hat]

/-- What a path leads to is at the location that it leads to. -/
theorem exists_at?_of_item {disk : Disk} {cwd path : String} {found : Item (List UInt8)}
    (h : disk.item cwd path = .ok found) :
    ∃ location, disk.locate cwd path = .ok location ∧ disk.at? location = some found := by
  cases hlocate : disk.locate cwd path with
  | error fault =>
      rw [item, hlocate] at h
      cases h
  | ok location =>
      rw [item_of_locate hlocate] at h
      cases hat : disk.at? location with
      | none =>
          rw [hat] at h
          cases h
      | some other =>
          rw [hat] at h
          exact ⟨location, rfl, hat.trans (congrArg some (Except.ok.inj h))⟩

theorem locate_eq (h : first.SameKinds second) (cwd path : String) :
    first.locate cwd path = second.locate cwd path := by
  rw [locate, locate, follow_eq h]

/-- **What a path leads to on both disks**: nothing, two files at one location, or two folders
there with the same kinds. -/
theorem item_cases (h : first.SameKinds second) (cwd path : String) :
    (∃ fault, first.item cwd path = .error fault ∧ second.item cwd path = .error fault) ∨
    (∃ location content other, first.locate cwd path = .ok location ∧
      first.at? location = some (.file content) ∧ second.at? location = some (.file other) ∧
      first.item cwd path = .ok (.file content) ∧ second.item cwd path = .ok (.file other)) ∨
    ∃ location below other, first.at? location = some (.folder below) ∧
      second.at? location = some (.folder other) ∧ below.SameKinds other ∧
      first.item cwd path = .ok (.folder below) ∧ second.item cwd path = .ok (.folder other) := by
  have hsame := locate_eq h cwd path
  cases hlocate : first.locate cwd path with
  | error fault =>
      rw [hlocate] at hsame
      exact Or.inl ⟨fault, by rw [item, hlocate], by rw [item, ← hsame]⟩
  | ok location =>
      rw [hlocate] at hsame
      have hfirst := item_of_locate hlocate
      have hsecond := item_of_locate hsame.symm
      -- the location is the same on both, and what is there is of the same kind
      rcases hat : first.at? location with _ | (content | below)
      · rw [hat] at hfirst
        rw [h.at?_none hat] at hsecond
        exact Or.inl ⟨.missing, hfirst, hsecond⟩
      · obtain ⟨other, hother⟩ := h.at?_file hat
        rw [hat] at hfirst
        rw [hother] at hsecond
        exact Or.inr (Or.inl ⟨location, content, other, rfl, hat, hother, hfirst, hsecond⟩)
      · obtain ⟨other, hother, hbelow⟩ := h.at?_folder hat
        rw [hat] at hfirst
        rw [hother] at hsecond
        exact Or.inr (Or.inr ⟨location, below, other, hat, hother, hbelow, hfirst, hsecond⟩)

theorem kind?_eq (h : first.SameKinds second) (cwd path : String) :
    first.kind? cwd path = second.kind? cwd path := by
  unfold kind?
  rcases item_cases h cwd path with ⟨fault, hfirst, hsecond⟩ |
    ⟨location, content, other, -, -, -, hfirst, hsecond⟩ |
    ⟨location, below, other, -, -, -, hfirst, hsecond⟩ <;>
  rw [hfirst, hsecond] <;>
  rfl

theorem walk_shapeAt_eq (hfirst : first.HasDistinctNames) (hsecond : second.HasDistinctNames)
    (h : first.SameKinds second) (cwd path : String) (keep : String → Bool) :
    (first.shapeAt cwd path).walk keep = (second.shapeAt cwd path).walk keep := by
  unfold shapeAt
  rcases item_cases h cwd path with ⟨fault, hitem, hother⟩ |
    ⟨location, content, other, -, -, -, hitem, hother⟩ |
    ⟨location, below, other, hbelow, hat, hkinds, hitem, hother⟩
  · rw [hitem, hother]
  · rw [hitem, hother]
  · rw [hitem, hother]
    dsimp only
    rw [Folder.walk_shape, Folder.walk_shape,
      Folder.walk_eq (hfirst.at? hbelow) (hsecond.at? hat) hkinds]

/-- **The same files are listed** below a path on disks with the same kinds. -/
theorem paths_eq (hfirst : first.HasDistinctNames) (hsecond : second.HasDistinctNames)
    (h : first.SameKinds second) (cwd path directory : String) (filter : Filter) :
    Listing.paths directory filter true (first.shapeAt cwd path) =
      Listing.paths directory filter true (second.shapeAt cwd path) := by
  unfold Listing.paths
  rw [if_pos rfl, if_pos rfl, walk_shapeAt_eq hfirst hsecond h]

/-- **A path with the file name on which disks agree** is read in the same way on both. -/
theorem readText_eq {name : String} (h : AgreeOn name first second) {cwd path : String}
    (hpath : Path.fileName path = name) :
    first.readText cwd path = second.readText cwd path := by
  unfold readText readOctets
  rcases item_cases h.kinds cwd path with ⟨fault, hfirst, hsecond⟩ |
    ⟨location, content, other, hlocate, hcontent, hother, hfirst, hsecond⟩ |
    ⟨location, below, other, -, -, -, hfirst, hsecond⟩
  · rw [hfirst, hsecond]
  · -- the file lies at a location that ends with the name
    have hlast := getLast?_of_locate hlocate hcontent
    rw [hpath] at hlast
    have hsame := h.octets location content hlast hcontent
    rw [hother] at hsame
    cases hsame
    rw [hfirst, hsecond]
  · rw [hfirst, hsecond]

end Disk

end ModuleResolution
