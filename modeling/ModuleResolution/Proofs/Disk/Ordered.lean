import ModuleResolution.Proofs.Disk.Listed
import ModuleResolution.Proofs.Disk.Written

/-! # The order of a walk

From the top down the files of a folder come before what is in its folders, and both come by name
(`Folder.Precedes`). A walk lists the files of a folder in this order (`Folder.pairwise_walk`), and
it lists all of them whose names are kept (`Folder.mem_walk`). What is in the folder itself is the
beginning of the walk (`Folder.ownFiles_prefix_walk`).
-/

set_option autoImplicit false

namespace ModuleResolution

namespace Folder

variable {α : Type} {folder below : Folder α} {name : String} {keep : String → Bool}
  {location : List String}

/-! ## From the top down -/

/-- One location comes before another one from the top down. -/
def Precedes : List String → List String → Prop
  | [name], [other] => name < other
  | [_], _ :: _ :: _ => True
  | name :: next :: rest, other :: following :: others =>
    name < other ∨ name = other ∧ Precedes (next :: rest) (following :: others)
  | _, _ => False

theorem not_precedes_self (location : List String) : ¬ Precedes location location := by
  induction location with
  | nil => exact id
  | cons name rest ih =>
      cases rest with
      | nil => exact String.lt_irrefl name
      | cons next others =>
          rintro (hname | ⟨-, hrest⟩)
          · exact String.lt_irrefl name hname
          · exact ih hrest

/-- A file of a folder comes before what is in a folder there. -/
theorem precedes_of_ne_nil (name other : String) {rest : List String} (h : rest ≠ []) :
    Precedes [name] (other :: rest) := by
  cases rest with
  | nil => exact absurd rfl h
  | cons next others => exact trivial

theorem precedes_cons {first second : List String} (hfirst : first ≠ []) (hsecond : second ≠ []) :
    Precedes (name :: first) (name :: second) ↔ Precedes first second := by
  cases first with
  | nil => exact absurd rfl hfirst
  | cons next rest =>
      cases second with
      | nil => exact absurd rfl hsecond
      | cons following others => simp [Precedes]

theorem precedes_of_lt {other : String} {first second : List String} (h : name < other)
    (hfirst : first ≠ []) (hsecond : second ≠ []) :
    Precedes (name :: first) (other :: second) := by
  cases first with
  | nil => exact absurd rfl hfirst
  | cons next rest =>
      cases second with
      | nil => exact absurd rfl hsecond
      | cons following others => exact Or.inl h

/-! ## Walks in order -/

/-- Sorting by a key of which there are no two gives a strict order. -/
theorem pairwise_mergeSort_lt {γ : Type} {key : γ → String} {xs : List γ}
    (h : (xs.map key).Nodup) :
    (xs.mergeSort fun x y => decide (key x ≤ key y)).Pairwise fun x y => key x < key y := by
  have hdistinct : (xs.mergeSort fun x y => decide (key x ≤ key y)).Pairwise
      fun x y => key x ≠ key y :=
    List.pairwise_map.mp (((List.mergeSort_perm xs _).map key).nodup_iff.mpr h)
  refine (pairwise_mergeSort_key key xs).imp₂ (fun x y hle hne => ?_) hdistinct
  by_contra hlt
  exact hne (String.le_antisymm hle (String.not_lt.mp hlt))

theorem nodup_branchNames (h : folder.HasDistinctNames) :
    ((folder.branches keep).map Prod.fst).Nodup := by
  induction folder with
  | empty => exact List.nodup_nil
  | file other content rest ih => exact ih h.2
  | subfolder other inner rest ihinner ihrest =>
      refine List.nodup_cons.mpr ⟨fun hmem => ?_, ihrest h.2.2⟩
      obtain ⟨branch, hbranch, hname⟩ := List.mem_map.mp hmem
      have hsome := get?_isSome_of_mem_branches hbranch
      rw [hname, h.1] at hsome
      cases hsome

/-- What is arranged comes in order if the names are distinct and each branch does. -/
theorem pairwise_arrange {files : List String} {branches : List (String × List (List String))}
    (hfiles : files.Nodup) (hbranches : (branches.map Prod.fst).Nodup)
    (hne : ∀ branch ∈ branches, ∀ location ∈ branch.2, location ≠ [])
    (h : ∀ branch ∈ branches, branch.2.Pairwise Precedes) :
    (arrange files branches).Pairwise Precedes := by
  have hmem : ∀ branch ∈ branches.mergeSort fun a b => decide (a.1 ≤ b.1), branch ∈ branches :=
    fun branch => List.mem_mergeSort.mp
  refine List.pairwise_append.mpr ⟨?_, ?_, ?_⟩
  · -- the files by name
    have hnames : (files.map fun name => name).Nodup := by
      rwa [List.map_id']
    exact List.pairwise_map.mpr (pairwise_mergeSort_lt hnames)
  · -- the branches by name, each of them in order
    refine List.pairwise_flatMap.mpr ⟨fun branch hbranch => ?_, ?_⟩
    · refine List.pairwise_map.mpr ((h branch (hmem branch hbranch)).imp_of_mem ?_)
      intro first second hfirst hsecond hprecedes
      exact (precedes_cons (hne branch (hmem branch hbranch) first hfirst)
        (hne branch (hmem branch hbranch) second hsecond)).mpr hprecedes
    · refine (pairwise_mergeSort_lt hbranches).imp_of_mem ?_
      intro branch other hbranch hother hlt first hfirst second hsecond
      obtain ⟨rest, hrest, rfl⟩ := List.mem_map.mp hfirst
      obtain ⟨others, hothers, rfl⟩ := List.mem_map.mp hsecond
      exact precedes_of_lt hlt (hne branch (hmem branch hbranch) rest hrest)
        (hne other (hmem other hother) others hothers)
  · -- the files before the branches
    intro first hfirst second hsecond
    obtain ⟨name, -, rfl⟩ := List.mem_map.mp hfirst
    obtain ⟨branch, hbranch, hlocation⟩ := List.mem_flatMap.mp hsecond
    obtain ⟨rest, hrest, rfl⟩ := List.mem_map.mp hlocation
    exact precedes_of_ne_nil _ _ (hne branch (hmem branch hbranch) rest hrest)

/-- A branch leads further than to its folder. -/
theorem ne_nil_of_mem_branches {branch : String × List (List String)}
    (hbranch : branch ∈ folder.branches keep) (hlocation : location ∈ branch.2) :
    location ≠ [] := by
  induction folder with
  | empty => cases hbranch
  | file other content rest ih => exact ih hbranch
  | subfolder other inner rest ihinner ihrest =>
      rcases List.mem_cons.mp hbranch with rfl | hbranch
      · have hwalk : location ∈ inner.walk keep := hlocation
        exact ne_nil_of_mem_walk hwalk
      · exact ihrest hbranch

theorem pairwise_branches (h : folder.HasDistinctNames) {branch : String × List (List String)}
    (hbranch : branch ∈ folder.branches keep) : branch.2.Pairwise Precedes := by
  induction folder generalizing branch with
  | empty => cases hbranch
  | file other content rest ih => exact ih h.2 hbranch
  | subfolder other inner rest ihinner ihrest =>
      rcases List.mem_cons.mp hbranch with rfl | hbranch
      · exact pairwise_arrange ((nodup_fileNames h.2.1).filter keep) (nodup_branchNames h.2.1)
          (fun _ hmem _ => ne_nil_of_mem_branches hmem) fun _ => ihinner h.2.1
      · exact ihrest h.2.2 hbranch

/-- **A walk goes from the top down.** -/
theorem pairwise_walk (h : folder.HasDistinctNames) (keep : String → Bool) :
    (folder.walk keep).Pairwise Precedes :=
  pairwise_arrange ((nodup_fileNames h).filter keep) (nodup_branchNames h)
    (fun _ hmem _ => ne_nil_of_mem_branches hmem) fun _ => pairwise_branches h

theorem nodup_walk (h : folder.HasDistinctNames) (keep : String → Bool) :
    (folder.walk keep).Nodup := by
  refine (pairwise_walk h keep).imp ?_
  rintro location _ hprecedes rfl
  exact not_precedes_self location hprecedes

/-! ## What a walk lists -/

/-- **A walk lists every file that is kept**, and nothing else. -/
theorem mem_walk (h : folder.HasDistinctNames) :
    location ∈ folder.walk keep ↔
      (∃ content, folder.at? location = some (.file content)) ∧
        keep (location.getLastD "") = true := by
  induction location generalizing folder with
  | nil =>
      have hnil : [] ∉ folder.walk keep := fun hmem => ne_nil_of_mem_walk hmem rfl
      simp [hnil, at?]
  | cons name rest ih =>
      rw [walk, mem_arrange]
      cases rest with
      | nil =>
          -- no branch leads to the folder it is the branch of
          have hbranch : ¬ ∃ branch ∈ folder.branches keep, ∃ tail ∈ branch.2,
              [name] = branch.1 :: tail := by
            rintro ⟨branch, hbranch, tail, htail, heq⟩
            exact ne_nil_of_mem_branches hbranch htail (List.cons.inj heq).2.symm
          rw [or_iff_left hbranch]
          simp [mem_fileNames h]
      | cons next others =>
          have hfile : ¬ ∃ file ∈ folder.fileNames.filter keep, name :: next :: others = [file] := by
            simp
          have hlast : (name :: next :: others).getLastD "" = (next :: others).getLastD "" := rfl
          rw [or_iff_right hfile, hlast]
          constructor
          · rintro ⟨⟨_, locations⟩, hbranch, tail, htail, heq⟩
            obtain ⟨rfl, rfl⟩ := List.cons.inj heq
            obtain ⟨below, hget, rfl⟩ := (mem_branches h).mp hbranch
            obtain ⟨⟨content, hat⟩, hkeep⟩ := (ih (h.get? hget)).mp htail
            exact ⟨⟨content, by rwa [at?, hget]; simp⟩, hkeep⟩
          · rintro ⟨⟨content, hat⟩, hkeep⟩
            obtain ⟨below, hget, hbelow⟩ := at?_cons_cons hat
            exact ⟨(name, below.walk keep), (mem_branches h).mpr ⟨below, hget, rfl⟩,
              next :: others, (ih (h.get? hget)).mpr ⟨⟨content, hbelow⟩, hkeep⟩, rfl⟩

/-- What is in the folder itself comes first. -/
theorem ownFiles_prefix_walk (folder : Folder α) (keep : String → Bool) :
    folder.ownFiles keep <+: folder.walk keep := by
  unfold ownFiles walk arrange
  simp

/-- The folder's own files are those that a walk lists at one name. -/
theorem ownFiles_eq_filter (folder : Folder α) (keep : String → Bool) :
    folder.ownFiles keep = (folder.walk keep).filter (·.length = 1) := by
  have hfiles (files : List String) :
      (files.map ([·])).filter (·.length = 1) = files.map ([·]) := by
    refine List.filter_eq_self.mpr fun location hlocation => ?_
    obtain ⟨name, -, rfl⟩ := List.mem_map.mp hlocation
    rfl
  rw [ownFiles, walk, arrange, arrange, List.filter_append, hfiles, List.mergeSort_nil]
  congr 1
  -- what is in a branch has at least two names
  refine (List.filter_eq_nil_iff.mpr fun location hlocation => ?_).symm
  obtain ⟨branch, hbranch, hbehind⟩ := List.mem_flatMap.mp hlocation
  obtain ⟨rest, hrest, rfl⟩ := List.mem_map.mp hbehind
  have hne : rest ≠ [] := ne_nil_of_mem_branches (List.mem_mergeSort.mp hbranch) hrest
  simpa using hne

/-! ## Other orders of entries -/

/-- A folder holds the entries of another one in some order, and so do the folders in it. -/
inductive Rearranged : Folder α → Folder α → Prop where
  | empty : Rearranged .empty .empty
  | cons (name : String) (item : Item α) {rest other : Folder α} (hrest : Rearranged rest other) :
    Rearranged (cons name item rest) (cons name item other)
  | inner (name : String) (rest : Folder α) {below other : Folder α}
    (hbelow : Rearranged below other) :
    Rearranged (.subfolder name below rest) (.subfolder name other rest)
  | swap (first second : String) (item other : Item α) (rest : Folder α) :
    Rearranged (.cons first item (.cons second other rest))
      (.cons second other (.cons first item rest))
  | trans {first second third : Folder α} (hfirst : Rearranged first second)
    (hsecond : Rearranged second third) : Rearranged first third

theorem hasDistinctNames_cons {item : Item α} {rest : Folder α} :
    (cons name item rest).HasDistinctNames ↔
      rest.get? name = none ∧ (∀ below, item = .folder below → below.HasDistinctNames) ∧
        rest.HasDistinctNames := by
  cases item with
  | file content => simp [cons, HasDistinctNames]
  | folder below => simp [cons, HasDistinctNames]

theorem at?_cons_folder (first : String) (item : Item α) (rest : Folder α) (name : String)
    (tail : List String) :
    (cons first item rest).at? (name :: tail) =
      if first = name then item.at? tail else rest.at? (name :: tail) := by
  rw [at?_cons, get?_cons, at?_cons]
  split <;> rfl

/-- **Folders with rearranged entries have the same kinds**, as long as names are distinct. -/
theorem Rearranged.sameKinds {other : Folder α} (h : folder.Rearranged other)
    (hnames : folder.HasDistinctNames) : folder.SameKinds other ∧ other.HasDistinctNames := by
  induction h with
  | empty => exact ⟨fun _ => rfl, trivial⟩
  | cons name item hrest ih =>
      obtain ⟨hnone, hitem, hdistinct⟩ := hasDistinctNames_cons.mp hnames
      obtain ⟨hkinds, hother⟩ := ih hdistinct
      refine ⟨fun location => ?_, hasDistinctNames_cons.mpr ⟨?_, hitem, hother⟩⟩
      · cases location with
        | nil => rfl
        | cons next tail =>
            rw [at?_cons_folder, at?_cons_folder]
            by_cases hnext : name = next
            · rw [if_pos hnext, if_pos hnext]
            · rw [if_neg hnext, if_neg hnext]
              exact hkinds (next :: tail)
      · rw [← at?_singleton] at hnone ⊢
        exact hkinds.at?_none hnone
  | inner name rest hbelow ih =>
      obtain ⟨hnone, hdistinct, hrest⟩ := hnames
      obtain ⟨hkinds, hother⟩ := ih hdistinct
      refine ⟨fun location => ?_, hnone, hother, hrest⟩
      cases location with
      | nil => rfl
      | cons next tail =>
          rw [at?_cons, at?_cons, get?, get?]
          by_cases hnext : name = next
          · rw [if_pos hnext, if_pos hnext, Option.bind_some, Option.bind_some,
              Item.at?_folder, Item.at?_folder]
            exact hkinds tail
          · rw [if_neg hnext, if_neg hnext]
  | swap first second item other rest =>
      obtain ⟨hfirst, hitem, hnames⟩ := hasDistinctNames_cons.mp hnames
      obtain ⟨hsecond, hother, hrest⟩ := hasDistinctNames_cons.mp hnames
      have hne : second ≠ first := by
        rintro rfl
        rw [get?_cons, if_pos rfl] at hfirst
        cases hfirst
      rw [get?_cons, if_neg hne] at hfirst
      refine ⟨fun location => ?_, hasDistinctNames_cons.mpr ⟨?_, hother,
        hasDistinctNames_cons.mpr ⟨hfirst, hitem, hrest⟩⟩⟩
      · cases location with
        | nil => rfl
        | cons next tail =>
            rw [at?_cons_folder, at?_cons_folder, at?_cons_folder, at?_cons_folder]
            -- only one of the two entries has the name
            by_cases hnext : first = next
            · rw [if_pos hnext, if_neg (hnext ▸ hne), if_pos hnext]
            · rw [if_neg hnext, if_neg hnext]
      · rw [get?_cons, if_neg hne.symm]
        exact hsecond
  | trans hfirst hsecond ihfirst ihsecond =>
      obtain ⟨hkinds, hmiddle⟩ := ihfirst hnames
      obtain ⟨hothers, hlast⟩ := ihsecond hmiddle
      exact ⟨fun location => (hkinds location).trans (hothers location), hlast⟩

end Folder

end ModuleResolution
