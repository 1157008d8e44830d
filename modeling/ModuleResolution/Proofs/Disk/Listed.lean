import ModuleResolution.Proofs.Disk.Lawful
import ModuleResolution.Proofs.Path.Lineage

/-! # What is listed

A walk lists files that are there (`Folder.mem_locations_of_mem_walk`), and on a lawful disk the
path of a listed file ends with the last name of its location (`Listing.fileName_pathOf`). So the
files of one name that are listed below a folder are among those that the folder holds at a
location with that last name (`Listing.exists_of_mem_paths`).
-/

set_option autoImplicit false

namespace ModuleResolution

namespace Folder

variable {α : Type} {folder : Folder α}

/-- The locations of the files below a folder. -/
def locations (folder : Folder α) : List (List String) := folder.contents.map Prod.fst

@[simp] theorem locations_file (name : String) (content : α) (rest : Folder α) :
    (file name content rest).locations = [name] :: rest.locations := rfl

@[simp] theorem locations_subfolder (name : String) (below rest : Folder α) :
    (subfolder name below rest).locations =
      below.locations.map (name :: ·) ++ rest.locations := by
  simp [locations, contents, List.map_append]

theorem mem_locations_of_mem_fileNames {name : String} (h : name ∈ folder.fileNames) :
    [name] ∈ folder.locations := by
  induction folder with
  | empty => cases h
  | file other content rest ih =>
      rw [locations_file]
      rcases List.mem_cons.mp h with rfl | h
      · exact List.mem_cons_self
      · exact List.mem_cons_of_mem _ (ih h)
  | subfolder other below rest ihbelow ihrest =>
      rw [locations_subfolder]
      exact List.mem_append_right _ (ihrest h)

/-- What a branch leads to is below the folder. -/
theorem mem_locations_of_mem_branches {keep : String → Bool}
    {branch : String × List (List String)} (hbranch : branch ∈ folder.branches keep)
    {location : List String} (hlocation : location ∈ branch.2) :
    branch.1 :: location ∈ folder.locations := by
  induction folder generalizing branch location with
  | empty => cases hbranch
  | file other content rest ih =>
      rw [locations_file]
      exact List.mem_cons_of_mem _ (ih hbranch hlocation)
  | subfolder other below rest ihbelow ihrest =>
      rw [locations_subfolder]
      rcases List.mem_cons.mp hbranch with rfl | hbranch
      · refine List.mem_append_left _ (List.mem_map_of_mem ?_)
        rcases mem_arrange.mp hlocation with ⟨name, hname, rfl⟩ | ⟨next, hnext, tail, htail, rfl⟩
        · exact mem_locations_of_mem_fileNames (List.mem_filter.mp hname).1
        · exact ihbelow hnext htail
      · exact List.mem_append_right _ (ihrest hbranch hlocation)

/-- **A walk only lists files that are there.** -/
theorem mem_locations_of_mem_walk {keep : String → Bool} {location : List String}
    (h : location ∈ folder.walk keep) : location ∈ folder.locations := by
  rcases mem_arrange.mp h with ⟨name, hname, rfl⟩ | ⟨branch, hbranch, rest, hrest, rfl⟩
  · exact mem_locations_of_mem_fileNames (List.mem_filter.mp hname).1
  · exact mem_locations_of_mem_branches hbranch hrest

/-- A walk does not list the folder itself. -/
theorem ne_nil_of_mem_walk {keep : String → Bool} {location : List String}
    (h : location ∈ folder.walk keep) : location ≠ [] := by
  rcases mem_arrange.mp h with ⟨name, -, rfl⟩ | ⟨branch, -, rest, -, rfl⟩ <;> simp

end Folder

namespace Listing

theorem pathOf_concat (directory : String) (front : List String) (name : String) :
    pathOf directory (front ++ [name]) = Path.append (pathOf directory front) name :=
  List.foldl_append ..

/-- **A listed path ends with the last name of its location.** -/
theorem fileName_pathOf {directory name : String} {front : List String}
    (hdirectory : Path.isAbsolute directory = true) (hlegible : Path.IsLegible name)
    (hdots : name ≠ "..") : Path.fileName (pathOf directory (front ++ [name])) = name := by
  have hfront : Path.isAbsolute (pathOf directory front) = true :=
    Path.isAbsolute_foldl_append hdirectory front
  rw [pathOf_concat, ← Path.fileName_normalize]
  exact Path.fileName_join hfront hlegible hdots

/-- **Where a listed file is**: on a lawful disk its location ends with its file name. -/
theorem exists_of_mem_paths {disk : Disk} (hdisk : disk.IsLawful) {cwd directory path : String}
    (hdirectory : Path.isAbsolute directory = true) {filter : Filter}
    (h : path ∈ paths directory filter true (disk.shapeAt cwd directory)) :
    ∃ location ∈ (disk.shapeAt cwd directory).locations,
      path = pathOf directory location ∧ location.getLast? = some (Path.fileName path) := by
  obtain ⟨location, hlocation, rfl⟩ := List.mem_map.mp h
  refine ⟨location, Folder.mem_locations_of_mem_walk hlocation, rfl, ?_⟩
  have hne := Folder.ne_nil_of_mem_walk hlocation
  obtain ⟨front, name, rfl⟩ : ∃ front name, location = front ++ [name] :=
    ⟨location.dropLast, location.getLast hne, (List.dropLast_concat_getLast hne).symm⟩
  have hname : IsEntryName name :=
    (Disk.AllNames.shapeAt hdisk cwd directory).walk hlocation (by simp)
  rw [fileName_pathOf hdirectory hname.1 hname.2.1]
  simp

end Listing

end ModuleResolution
