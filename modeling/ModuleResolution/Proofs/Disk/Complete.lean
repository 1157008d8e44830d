import ModuleResolution.Proofs.Disk.Ordered
import ModuleResolution.Proofs.Disk.Written

/-! # Complete listings

A listing of a folder holds each file below it once whose extension is allowed and not excluded,
in the order from the top down, and without what is below only the files of the folder itself
(`Listing.filesAt_complete`). That the listed paths are distinct and lead to those files holds
because names on a lawful disk have no slash: the path of a location is one text in front and the
names joined by slashes (`Listing.exists_pathOf_eq`), and it leads there from wherever the folder
was seen (`Listing.item_pathOf`).
-/

set_option autoImplicit false

namespace ModuleResolution

namespace Path

variable {name : String} {names : List String}

/-- A name is put behind a path with something between them that only depends on the path. -/
theorem exists_append_eq (left : String) :
    ∃ front, ∀ name, IsLegible name → append left name = front ++ name := by
  have hrelative : ∀ name, IsLegible name → ¬ isAbsolute name = true :=
    fun name hname => by simp [isAbsolute_of_isLegible hname]
  by_cases hopen : (left.isEmpty || left.toList.getLast? == some '/') = true
  · refine ⟨left, fun name hname => ?_⟩
    rw [append, if_neg (hrelative name hname), if_pos hopen]
  · refine ⟨left ++ "/", fun name hname => ?_⟩
    rw [append, if_neg (hrelative name hname), if_neg hopen]

theorem IsLegible.ne_empty (h : IsLegible name) : name ≠ "" := by
  rintro rfl
  exact absurd h.1 (by decide)

/-- A name is put behind another one with a slash between them. -/
theorem append_name (front : String) {other : String} (hname : IsLegible name)
    (hother : IsLegible other) : append (front ++ name) other = front ++ name ++ "/" ++ other := by
  have hchars : name.toList ≠ [] := by simpa using hname.ne_empty
  have hlast : name.toList.getLast? ≠ some '/' :=
    fun hslash => hname.2 (List.mem_of_getLast? hslash)
  have hopen : ¬ ((front ++ name).isEmpty || (front ++ name).toList.getLast? == some '/') = true := by
    rw [String.toList_append, List.getLast?_append_of_ne_nil _ hchars]
    simp [hname.ne_empty, hlast]
  rw [append, if_neg (by simp [isAbsolute_of_isLegible hother]), if_neg hopen]

/-- Names that are put one after another are joined by slashes. -/
theorem foldl_append_names (front : String) (hname : IsLegible name)
    (hnames : ∀ other ∈ names, IsLegible other) :
    names.foldl append (front ++ name) = front ++ joinNames (name :: names) := by
  induction names generalizing front name with
  | nil => rw [List.foldl_nil, joinNames, String.intercalate_singleton]
  | cons next rest ih =>
      have hnext := hnames next List.mem_cons_self
      rw [List.foldl_cons, append_name front hname hnext,
        ih (front ++ name ++ "/") hnext fun other hother =>
          hnames other (List.mem_cons_of_mem _ hother)]
      rw [joinNames, joinNames, String.intercalate_cons_cons]
      simp [String.append_assoc]

theorem joinNames_injective {others : List String} (hnames : ∀ name ∈ names, IsLegible name)
    (hothers : ∀ name ∈ others, IsLegible name) (hne : names ≠ []) (hother : others ≠ [])
    (h : joinNames names = joinNames others) : names = others := by
  rw [← pieces_joinNames (fun name hname => (hnames name hname).2) hne, h]
  exact pieces_joinNames (fun name hname => (hothers name hname).2) hother

end Path

namespace Disk

variable {disk : Disk} {cwd directory name : String} {below : Folder (List UInt8)}
  {item : Item (List UInt8)} {location reached : List String}

/-! ## Paths behind paths -/

/-- What comes behind a path is seen from where that path is seen from. -/
theorem exists_piecesFrom (cwd : String) (hdirectory : directory ≠ "") :
    ∃ seen, ∀ tail, piecesFrom cwd (directory ++ tail) = Path.pieces (seen ++ directory ++ tail) := by
  have hhead : ∀ tail, Path.isAbsolute (directory ++ tail) = Path.isAbsolute directory := by
    intro tail
    have hchars : directory.toList ≠ [] := by simpa using hdirectory
    rw [Path.isAbsolute, Path.isAbsolute, String.toList_append, List.head?_append_of_ne_nil _ hchars]
  by_cases habsolute : Path.isAbsolute directory = true
  · refine ⟨"", fun tail => ?_⟩
    rw [piecesFrom, if_pos (by rw [hhead, habsolute]), String.empty_append]
  · refine ⟨cwd ++ "/", fun tail => ?_⟩
    rw [piecesFrom, if_neg (by rwa [hhead]), ← String.append_assoc]

/-- **A path behind another one** is followed from where that one leads. -/
theorem follow_append_path {text : String} (hdirectory : directory ≠ "")
    (htext : Path.isAbsolute text = false)
    (h : disk.follow [] (piecesFrom cwd directory) = .ok reached) :
    disk.follow [] (piecesFrom cwd (Path.append directory text)) =
      disk.follow reached (Path.pieces text) := by
  obtain ⟨seen, hseen⟩ := exists_piecesFrom cwd hdirectory
  have hwhole := hseen ""
  rw [String.append_empty, String.append_empty] at hwhole
  rw [Path.append, if_neg (by simp [htext])]
  by_cases hslash : directory.toList.getLast? = some '/'
  · -- the empty piece behind the slash stays where the pieces before it lead
    obtain ⟨front, rfl⟩ := Path.exists_eq_append_slash hslash
    have hpieces : ∀ tail, Path.pieces (seen ++ (front ++ "/") ++ tail) =
        Path.pieces (seen ++ front) ++ Path.pieces tail := by
      intro tail
      rw [← String.append_assoc, Path.pieces_append_slash]
    have hempty := hpieces ""
    rw [String.append_empty] at hempty
    rw [if_pos (by simp), hseen, hpieces, follow_append]
    rw [hwhole, hempty, follow_append] at h
    cases hfront : disk.follow [] (Path.pieces (seen ++ front)) with
    | error fault =>
        rw [hfront] at h
        cases h
    | ok middle =>
        rw [hfront] at h
        have hstay : reached = middle := follow_eq_ok h
        rw [hstay]
        rfl
  · rw [if_neg (by simp [hdirectory, hslash]), String.append_assoc, hseen, ← String.append_assoc,
      Path.pieces_append_slash, ← hwhole, follow_append, h]
    rfl

/-- **The name of an entry behind the path of a folder** leads to the entry. -/
theorem item_append (hfolder : disk.item cwd directory = .ok (.folder below))
    (hname : IsEntryName name) (hget : below.get? name = some item) :
    disk.item cwd (Path.append directory name) = .ok item := by
  obtain ⟨hlegible, hdots, hpossible⟩ := hname
  obtain ⟨reached, hlocate, hat⟩ := exists_at?_of_item hfolder
  obtain ⟨hfront, hfollow⟩ := locate_eq_ok hlocate
  have hdirectory : directory ≠ "" := by
    rintro rfl
    rw [locate, if_neg (by decide), if_pos (by decide)] at hlocate
    cases hlocate
  have hstep : ¬ IsStep name := by
    simpa [IsStep, Path.isName, hdots] using hlegible.1
  have hpieces : Path.pieces name = [name] := Path.pieces_of_slash_not_mem hlegible.2
  have hnonempty : Path.append directory name ≠ "" := by
    obtain ⟨front, happend⟩ := Path.exists_append_eq directory
    rw [happend name hlegible]
    simp [hlegible.ne_empty]
  -- the way to the entry is the way to the folder and one piece more
  have hreached : disk.locate cwd (Path.append directory name) = .ok (reached ++ [name]) := by
    rw [locate, if_neg (by simp [isImpossible_path_append hfront hpossible]),
      if_neg (by simpa using hnonempty),
      follow_append_path hdirectory (Path.isAbsolute_of_isLegible hlegible) hfollow, hpieces,
      follow_name hstep hat, hget]
    rfl
  rw [item_of_locate hreached, Folder.at?_append hat, Folder.at?_singleton, hget]

end Disk

namespace Folder

/-- The name that leads to an item is the name of an entry. -/
theorem AllNames.of_get? {α : Type} {p : String → Prop} {folder : Folder α} {name : String}
    {item : Item α} (h : folder.AllNames p) (hget : folder.get? name = some item) : p name := by
  induction folder with
  | empty => cases hget
  | file other content rest ih =>
      rw [Folder.get?] at hget
      split at hget
      · next heq => exact heq ▸ h.1
      · exact ih h.2 hget
  | subfolder other inner rest ihinner ihrest =>
      rw [Folder.get?] at hget
      split at hget
      · next heq => exact heq ▸ h.1
      · exact ihrest h.2.2 hget

end Folder

namespace Listing

variable {place : Place} {directory : String} {filter : Filter} {location other : List String}

/-! ## Listed paths -/

/-- The path of a location is one text in front and the names joined by slashes. -/
theorem exists_pathOf_eq (directory : String) :
    ∃ front, ∀ location, location ≠ [] → (∀ name ∈ location, Path.IsLegible name) →
      pathOf directory location = front ++ Path.joinNames location := by
  obtain ⟨front, hfront⟩ := Path.exists_append_eq directory
  refine ⟨front, fun location hne hnames => ?_⟩
  cases location with
  | nil => exact absurd rfl hne
  | cons name rest =>
      have hname := hnames name List.mem_cons_self
      show rest.foldl Path.append (Path.append directory name) = _
      rw [hfront name hname]
      exact Path.foldl_append_names front hname fun other hother =>
        hnames other (List.mem_cons_of_mem _ hother)

/-- **Locations with one path are one location.** -/
theorem pathOf_injective (hne : location ≠ []) (hother : other ≠ [])
    (hnames : ∀ name ∈ location, Path.IsLegible name)
    (hothers : ∀ name ∈ other, Path.IsLegible name)
    (h : pathOf directory location = pathOf directory other) : location = other := by
  obtain ⟨front, hfront⟩ := exists_pathOf_eq directory
  rw [hfront location hne hnames, hfront other hother hothers, String.append_right_inj] at h
  exact Path.joinNames_injective hnames hothers hne hother h

/-- **The path of a location leads to what is there**, from wherever the folder was seen. -/
theorem item_pathOf {below : Folder (List UInt8)} {item : Item (List UInt8)}
    (hfolder : place.disk.item place.cwd directory = .ok (.folder below))
    (hbelow : below.AllNames IsEntryName) (hat : below.at? location = some item) :
    place.disk.item place.cwd (pathOf directory location) = .ok item := by
  induction location generalizing directory below with
  | nil =>
      rw [Folder.at?, Option.some.injEq] at hat
      exact hat ▸ hfolder
  | cons name rest ih =>
      rw [Folder.at?_cons] at hat
      obtain ⟨entry, hget, hentry⟩ := Option.bind_eq_some_iff.mp hat
      have hitem := Disk.item_append hfolder (hbelow.of_get? hget) hget
      cases entry with
      | folder inner =>
          rw [Item.at?_folder] at hentry
          exact ih hitem (hbelow.get? hget) hentry
      | file content =>
          cases rest with
          | nil =>
              cases hentry
              exact hitem
          | cons next others => cases hentry

/-! ## What is listed -/

/-- The locations of the files that are to be listed of what a path leads to, each once. -/
structure IsListing (place : Place) (directory : String) (filter : Filter)
    (locations : List (List String)) : Prop where
  mem_iff : ∀ location, location ∈ locations ↔
    ∃ below content, place.disk.item place.cwd directory = .ok (.folder below) ∧
      below.at? location = some (.file content) ∧
      Path.extension (location.getLastD "") ∈ filter.allowed ∧
      Path.extension (location.getLastD "") ∉ filter.excluded
  /-- They come from the top down. -/
  ordered : locations.Pairwise Folder.Precedes
  nodup : (locations.map (pathOf directory)).Nodup
  isFile : ∀ location ∈ locations, place.kind? (pathOf directory location) = some .file

theorem admits_iff (filter : Filter) (name : String) :
    filter.admits name = true ↔
      Path.extension name ∈ filter.allowed ∧ Path.extension name ∉ filter.excluded := by
  simp [Filter.admits]

theorem shapeAt_of_kind? (h : place.kind? directory ≠ some .folder) :
    place.shapeAt directory = .empty := by
  unfold Place.kind? Disk.kind? at h
  unfold Place.shapeAt Disk.shapeAt
  rcases hitem : place.disk.item place.cwd directory with fault | (content | below)
  · rfl
  · rfl
  · rw [hitem] at h
    exact absurd rfl h

theorem walk_empty (keep : String → Bool) : (Folder.empty : Folder Unit).walk keep = [] := by
  simp [Folder.walk, Folder.arrange, Folder.fileNames, Folder.branches]

/-- What a path leads to has a shape that is listed, if it is a folder. -/
theorem shapeAt_cases (place : Place) (directory : String) :
    (∃ below, place.disk.item place.cwd directory = .ok (.folder below) ∧
      place.shapeAt directory = below.shape) ∨
    ((∀ below, place.disk.item place.cwd directory ≠ .ok (.folder below)) ∧
      place.shapeAt directory = .empty) := by
  unfold Place.shapeAt Disk.shapeAt
  rcases place.disk.item place.cwd directory with fault | (content | below)
  · exact Or.inr ⟨by simp, rfl⟩
  · exact Or.inr ⟨by simp, rfl⟩
  · exact Or.inl ⟨below, rfl, rfl⟩

/-- **What a walk lists below a path**: the files whose names are kept. -/
theorem mem_walk_shapeAt (hnames : place.disk.HasDistinctNames) (directory : String)
    (keep : String → Bool) : location ∈ (place.shapeAt directory).walk keep ↔
      ∃ below content, place.disk.item place.cwd directory = .ok (.folder below) ∧
        below.at? location = some (.file content) ∧ keep (location.getLastD "") = true := by
  rcases shapeAt_cases place directory with ⟨below, hbelow, hshape⟩ | ⟨hnone, hshape⟩
  · obtain ⟨reached, -, hat⟩ := Disk.exists_at?_of_item hbelow
    rw [hshape, Folder.walk_shape, Folder.mem_walk (hnames.at? hat)]
    constructor
    · rintro ⟨⟨content, hfile⟩, hkeep⟩
      exact ⟨below, content, hbelow, hfile, hkeep⟩
    · rintro ⟨_, content, hitem, hfile, hkeep⟩
      cases hbelow.symm.trans hitem
      exact ⟨⟨content, hfile⟩, hkeep⟩
  · rw [hshape, walk_empty]
    refine iff_of_false List.not_mem_nil ?_
    rintro ⟨below, -, hitem, -⟩
    exact hnone below hitem

/-- **The walk below a folder is what is to be listed of it.** -/
theorem isListing_walk (hdisk : place.disk.IsLawful) (hnames : place.disk.HasDistinctNames)
    (directory : String) (filter : Filter) :
    IsListing place directory filter ((place.shapeAt directory).walk filter.admits) := by
  have hmem : ∀ location, location ∈ (place.shapeAt directory).walk filter.admits ↔ _ :=
    fun location => mem_walk_shapeAt hnames directory filter.admits
  simp only [admits_iff] at hmem
  rcases shapeAt_cases place directory with ⟨below, hbelow, hshape⟩ | ⟨-, hshape⟩
  · obtain ⟨reached, -, hat⟩ := Disk.exists_at?_of_item hbelow
    have hlawful : below.AllNames IsEntryName := Folder.AllNames.at? hdisk hat
    have hdistinct : below.HasDistinctNames := hnames.at? hat
    have hlegible : ∀ location ∈ below.walk filter.admits, ∀ name ∈ location,
        Path.IsLegible name :=
      fun location hlocation name hname => (hlawful.walk hlocation hname).1
    rw [hshape, Folder.walk_shape] at hmem ⊢
    constructor
    case mem_iff => exact hmem
    case ordered => exact Folder.pairwise_walk hdistinct filter.admits
    -- a location can be told from the path that is made of it, so no path comes twice
    case nodup =>
      refine List.pairwise_map.mpr ((Folder.nodup_walk hdistinct filter.admits).imp_of_mem ?_)
      intro location other hlocation hother hne heq
      exact hne (pathOf_injective (Folder.ne_nil_of_mem_walk hlocation)
        (Folder.ne_nil_of_mem_walk hother) (hlegible location hlocation) (hlegible other hother) heq)
    case isFile =>
      intro location hlocation
      obtain ⟨⟨content, hfile⟩, -⟩ := (Folder.mem_walk hdistinct).mp hlocation
      rw [Place.kind?, Disk.kind?, item_pathOf hbelow hlawful hfile]
      rfl
  · rw [hshape, walk_empty] at hmem ⊢
    exact ⟨hmem, List.Pairwise.nil, List.nodup_nil,
      fun location hlocation => absurd hlocation List.not_mem_nil⟩

/-- **What is listed is a file.** -/
theorem kind?_of_mem_paths (hdisk : place.disk.IsLawful) (hnames : place.disk.HasDistinctNames)
    {path : String} (h : path ∈ paths directory filter true (place.shapeAt directory)) :
    place.kind? path = some .file := by
  rw [paths, if_pos rfl] at h
  obtain ⟨location, hlocation, rfl⟩ := List.mem_map.mp h
  exact (isListing_walk hdisk hnames directory filter).isFile location hlocation

theorem outcome_filesAt (hpossible : Disk.isImpossible directory = false) (filter : Filter)
    (recursive : Bool) (place : Place) :
    (filesAt directory filter recursive).outcome place =
      .ok (paths directory filter recursive (place.shapeAt directory)) := by
  rw [filesAt, if_neg (by simp [hpossible])]
  rfl

/-- Without what is below, only the files at one name are listed. -/
theorem paths_own (directory : String) (filter : Filter) (shape : Folder Unit) :
    paths directory filter false shape =
      ((shape.walk filter.admits).filter (·.length = 1)).map (pathOf directory) := by
  rw [paths, if_neg (by decide), Folder.ownFiles_eq_filter]

/-- **Listings are complete**, without duplicates and in order, and the order in which a disk holds
its entries makes no difference. A path that leads to no folder has no files, and one that no disk
can have is refused. -/
theorem filesAt_complete (hdisk : place.disk.IsLawful) (hnames : place.disk.HasDistinctNames)
    (directory : String) (filter : Filter) :
    (Disk.isImpossible directory = true → ∀ recursive,
      (filesAt directory filter recursive).outcome place = .error ⟨.impossible, directory⟩) ∧
    (Disk.isImpossible directory = false → ∃ locations,
      IsListing place directory filter locations ∧
      (filesAt directory filter true).outcome place = .ok (locations.map (pathOf directory)) ∧
      (filesAt directory filter false).outcome place =
        .ok ((locations.filter (·.length = 1)).map (pathOf directory)) ∧
      locations.filter (·.length = 1) <+: locations ∧
      (place.kind? directory ≠ some .folder → locations = [])) ∧
    ∀ disk, place.disk.Rearranged disk → ∀ recursive,
      (filesAt directory filter recursive).outcome ⟨disk, place.cwd⟩ =
        (filesAt directory filter recursive).outcome place := by
  refine ⟨fun himpossible recursive => ?_, fun hpossible => ?_, fun disk hdisk recursive => ?_⟩
  · rw [filesAt, if_pos himpossible]
    rfl
  · refine ⟨(place.shapeAt directory).walk filter.admits,
      isListing_walk hdisk hnames directory filter, outcome_filesAt hpossible filter true place,
      ?_, ?_, ?_⟩
    · rw [outcome_filesAt hpossible, paths_own]
    · rw [← Folder.ownFiles_eq_filter]
      exact Folder.ownFiles_prefix_walk _ _
    · intro hkind
      rw [shapeAt_of_kind? hkind, walk_empty]
  -- a disk that is put in another order has the same walk, as a walk goes by the names
  · obtain ⟨hkinds, hother⟩ := hdisk.sameKinds hnames
    have hwalk : (Place.shapeAt ⟨disk, place.cwd⟩ directory).walk filter.admits =
        (place.shapeAt directory).walk filter.admits :=
      (Disk.walk_shapeAt_eq hnames hother hkinds place.cwd directory filter.admits).symm
    by_cases hpossible : Disk.isImpossible directory = true
    · rw [filesAt, if_pos hpossible]
      rfl
    · rw [Bool.not_eq_true] at hpossible
      rw [outcome_filesAt hpossible, outcome_filesAt hpossible]
      cases recursive with
      | true => rw [paths, paths, if_pos rfl, if_pos rfl, hwalk]
      | false => rw [paths_own, paths_own, hwalk]

/-- A folder that holds a folder and two files in the order in which they are not listed. -/
theorem filesAt_complete_unsorted :
    let disk : Disk := .subfolder "p"
      (.subfolder "lib" (.file "b.ts" [] .empty) (.file "c.ts" [] (.file "a.d.ts" [] .empty))) .empty
    disk.IsLawful ∧ disk.HasDistinctNames ∧
      ∃ locations, IsListing ⟨disk, "/p"⟩ "." ⟨[".ts"], []⟩ locations ∧
        locations.map (pathOf ".") = ["./c.ts", "./lib/b.ts"] := by
  intro disk
  have hdisk : disk.IsLawful := by decide +kernel
  have hnames : disk.HasDistinctNames := by decide +kernel
  obtain ⟨locations, hlisting, houtcome, -⟩ :=
    (@filesAt_complete ⟨disk, "/p"⟩ hdisk hnames "." ⟨[".ts"], []⟩).2.1 (by decide)
  refine ⟨hdisk, hnames, locations, hlisting, ?_⟩
  have hpaths : paths "." ⟨[".ts"], []⟩ true (Place.shapeAt ⟨disk, "/p"⟩ ".") =
      ["./c.ts", "./lib/b.ts"] := by decide +kernel
  rw [outcome_filesAt (by decide), hpaths] at houtcome
  exact (Except.ok.inj houtcome).symm

/-- A path with the character NUL leads nowhere, yet its listing is no empty one. -/
theorem filesAt_nul :
    (⟨.empty, "/"⟩ : Place).kind? "/d\x00" = none ∧
      (filesAt "/d\x00" ⟨[".ts"], []⟩ true).outcome ⟨.empty, "/"⟩ ≠ .ok [] := by
  constructor
  · decide +kernel
  · rw [filesAt, if_pos (by decide)]
    intro h
    cases h

end Listing

end ModuleResolution
