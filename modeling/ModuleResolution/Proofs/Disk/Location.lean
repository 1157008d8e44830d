import ModuleResolution.Proofs.Disk.Follow
import ModuleResolution.Proofs.Path.Climb
import ModuleResolution.Proofs.Path.Lineage

/-! # The location of a path

Nothing on a disk leads elsewhere than its place, so where a path leads can be read off its text:
what is left when its pieces are taken one after another (`follow_eq_ok`). For an absolute path
these are the names that the path is read as (`location_of_locate`), so a path that leads anywhere
leads to the same item in its normal form (`item_normalize`). A file lies at a location that ends
with the file name of each path to it (`getLast?_of_locate`).
-/

set_option autoImplicit false

namespace ModuleResolution

/-! ## Items below folders -/

namespace Folder

variable {α : Type} {folder below : Folder α} {front back : List String} {item : Item α}

/-- Behind the location of a folder the locations are those of that folder. -/
theorem at?_append (h : folder.at? front = some (.folder below)) (back : List String) :
    folder.at? (front ++ back) = below.at? back := by
  induction front generalizing folder with
  | nil =>
      obtain rfl : folder = below := by simpa [at?] using h
      rfl
  | cons name rest ih =>
      cases rest with
      | nil =>
          have hget : folder.get? name = some (.folder below) := h
          cases back with
          | nil => exact hget
          | cons next others =>
              show folder.at? (name :: next :: others) = _
              rw [at?, hget]
              simp
      | cons next others =>
          obtain ⟨inner, hget, hinner⟩ := at?_cons_cons h
          show folder.at? (name :: next :: (others ++ back)) = _
          rw [at?, hget]
          · exact ih hinner
          · simp

/-- Whatever has something behind it is a folder. -/
theorem exists_folder_of_at?_append (h : folder.at? (front ++ back) = some item)
    (hback : back ≠ []) : ∃ below, folder.at? front = some (.folder below) := by
  induction back using List.reverseRecOn generalizing item with
  | nil => exact absurd rfl hback
  | append_singleton rest last ih =>
      obtain ⟨inner, hinner⟩ := at?_dropLast h
      rw [← List.append_assoc, List.dropLast_concat] at hinner
      by_cases hrest : rest = []
      · rw [hrest, List.append_nil] at hinner
        exact ⟨inner, hinner⟩
      · exact ih hinner hrest

end Folder

namespace Disk

variable {disk : Disk} {cwd path : String} {location reached pieces names : List String}

/-! ## Following pieces -/

/-- Where a piece of a path leads from a location. -/
def turn (location : List String) (piece : String) : List String :=
  if piece = "" || piece = "." then location
  else if piece = ".." then location.dropLast
  else location ++ [piece]

/-- **What is reached** is what the pieces say, whatever is on the disk. -/
theorem follow_eq_ok (h : disk.follow location pieces = .ok reached) :
    reached = pieces.foldl turn location := by
  induction pieces generalizing location with
  | nil => exact (Except.ok.inj h).symm
  | cons piece rest ih =>
      rw [List.foldl_cons, turn]
      rw [follow] at h
      split at h
      · cases h
      · cases h
      · split
        · next hstay => exact ih (by rwa [if_pos hstay] at h)
        · next hgo =>
            rw [if_neg hgo] at h
            split
            · next hdots => exact ih (by rwa [if_pos hdots] at h)
            · next hname =>
                rw [if_neg hname] at h
                split at h
                · cases h
                · exact ih h

/-- Names that lead to something are followed to it. -/
theorem follow_names (hnames : ∀ name ∈ names, ¬ IsStep name)
    (h : (disk.at? (location ++ names)).isSome = true) :
    disk.follow location names = .ok (location ++ names) := by
  induction names generalizing location with
  | nil => rw [List.append_nil, follow]
  | cons name rest ih =>
      obtain ⟨item, hitem⟩ := Option.isSome_iff_exists.mp h
      obtain ⟨below, hbelow⟩ := Folder.exists_folder_of_at?_append hitem (by simp)
      have hsplit : location ++ name :: rest = location ++ [name] ++ rest := by simp
      have hstep := hnames name List.mem_cons_self
      rw [IsStep, not_or, not_or] at hstep
      obtain ⟨hempty, hdot, hdots⟩ := hstep
      -- the name itself leads to the item, or to a folder on the way to it
      obtain ⟨entry, hentry⟩ : ∃ entry, disk.at? (location ++ [name]) = some entry := by
        rw [hsplit] at hitem
        by_cases hrest : rest = []
        · rw [hrest, List.append_nil] at hitem
          exact ⟨item, hitem⟩
        · obtain ⟨inner, hinner⟩ := Folder.exists_folder_of_at?_append hitem hrest
          exact ⟨.folder inner, hinner⟩
      rw [follow, hbelow]
      dsimp only
      rw [if_neg (by simp [hempty, hdot]), if_neg hdots, hentry, hsplit]
      refine ih (fun other hother => hnames other (List.mem_cons_of_mem _ hother)) ?_
      rwa [← hsplit]

/-- From the folder at `/` empty pieces lead nowhere. -/
theorem follow_replicate_empty (count : Nat) (pieces : List String) :
    disk.follow [] (List.replicate count "" ++ pieces) = disk.follow [] pieces := by
  induction count with
  | zero => rfl
  | succ count ih =>
      rw [List.replicate_succ, List.cons_append, follow]
      exact ih

end Disk

/-! ## Pieces and names -/

namespace Path

variable {text piece : String} {anchor : Anchor} {names : List String}

/-- Taking the pieces of an absolute path one after another is reading its names. -/
theorem foldl_turn (ha : anchor ≠ .relative) (pieces : List String) {stack : List String}
    (hstack : ".." ∉ stack) :
    pieces.foldl Disk.turn stack.reverse =
      ((pieces.filter isName).foldl (push anchor) stack).reverse := by
  induction pieces generalizing stack with
  | nil => rfl
  | cons piece rest ih =>
      rw [List.foldl_cons, Disk.turn]
      by_cases hname : isName piece = true
      · rw [List.filter_cons_of_pos hname, List.foldl_cons]
        have hpiece : ¬ (decide (piece = "") || decide (piece = ".")) = true := by
          simpa [isName] using hname
        rw [if_neg hpiece]
        by_cases hdots : piece = ".."
        · rw [if_pos hdots]
          -- the innermost name goes, and at the root nothing does
          cases stack with
          | nil =>
              rw [push, if_pos hdots, if_neg ha]
              exact ih hstack
          | cons top below =>
              rw [List.mem_cons, not_or] at hstack
              rw [push, if_pos hdots, if_neg (Ne.symm hstack.1), List.reverse_cons,
                List.dropLast_concat]
              exact ih hstack.2
        · rw [if_neg hdots, push_of_ne hdots, ← List.reverse_cons]
          refine ih ?_
          rw [List.mem_cons, not_or]
          exact ⟨Ne.symm hdots, hstack⟩
      · rw [List.filter_cons_of_neg hname]
        have hpiece : (decide (piece = "") || decide (piece = ".")) = true := by
          by_contra hne
          exact hname (by simpa [isName] using hne)
        rw [if_pos hpiece]
        exact ih hstack

theorem foldl_turn_pieces (h : isAbsolute text = true) :
    (pieces text).foldl Disk.turn [] = (read text).names := by
  have hempty : ".." ∉ ([] : List String) := by simp
  exact foldl_turn ((isAbsolute_iff text).mp h) (pieces text) hempty

/-- The pieces of an absolute path that is written down: some empty ones, then its names. -/
theorem exists_pieces_render (ha : anchor ≠ .relative) (h : ∀ name ∈ names, IsLegible name) :
    ∃ count, pieces (render ⟨anchor, names⟩) = List.replicate count "" ++ names := by
  obtain ⟨count, hcount⟩ :
      ∃ count, pieces (joinNames names) = List.replicate count "" ++ names := by
    by_cases hnames : names = []
    · subst hnames
      exact ⟨1, by decide⟩
    · exact ⟨0, pieces_joinNames (fun name hname => (h name hname).2) hnames⟩
  rw [render_of_ne_relative ha]
  cases anchor with
  | relative => exact absurd rfl ha
  | root =>
      refine ⟨count + 1, ?_⟩
      show pieces ("/" ++ joinNames names) = _
      rw [pieces_slash, hcount, List.replicate_succ, List.cons_append]
  | doubleRoot =>
      refine ⟨count + 2, ?_⟩
      show pieces ("/" ++ "/" ++ joinNames names) = _
      rw [String.append_assoc, pieces_slash, pieces_slash, hcount, List.replicate_succ,
        List.replicate_succ, List.cons_append, List.cons_append]

/-- The last piece of a path is its file name, when it is a name. -/
theorem fileName_of_getLast?_pieces (hpiece : ¬ IsStep piece)
    (h : (pieces text).getLast? = some piece) : fileName text = piece := by
  rw [IsStep, not_or, not_or] at hpiece
  obtain ⟨hempty, hdot, hdots⟩ := hpiece
  obtain ⟨front, hfront⟩ := List.getLast?_eq_some_iff.mp h
  have hname : isName piece = true := by simp [isName, hempty, hdot]
  have hnames : (read text).names =
      ((front.filter isName).foldl (push (anchorOf text)) []).reverse ++ [piece] := by
    show (((pieces text).filter isName).foldl (push (anchorOf text)) []).reverse = _
    rw [hfront, List.filter_append, List.foldl_append, List.filter_cons_of_pos hname,
      List.filter_nil, List.foldl_cons, List.foldl_nil, push_of_ne hdots, List.reverse_cons]
  exact fileName_of_names hnames

end Path

/-! ## Locations of paths -/

namespace Disk

variable {disk : Disk} {cwd path : String} {location : List String}

/-- A character other than a slash is in parts joined by slashes when it is in one of them. -/
theorem mem_intercalate_slash {c : Char} (hc : c ≠ '/') {parts : List (List Char)} :
    c ∈ ['/'].intercalate parts ↔ ∃ part ∈ parts, c ∈ part := by
  induction parts with
  | nil => simp [List.intercalate]
  | cons part rest ih =>
      cases rest with
      | nil => simp [List.intercalate]
      | cons next rest =>
          have hcons : ['/'].intercalate (part :: next :: rest) =
              part ++ ['/'] ++ ['/'].intercalate (next :: rest) := by
            simp [List.intercalate]
          rw [hcons, List.mem_append, List.mem_append, ih]
          simp [hc]

/-- A text with the character NUL has it in one of its pieces. -/
theorem isImpossible_iff_pieces (text : String) :
    isImpossible text = true ↔ ∃ piece ∈ Path.pieces text, isImpossible piece = true := by
  have hnul : Char.ofNat 0 ≠ '/' := by decide
  have hjoin : Char.ofNat 0 ∈ ['/'].intercalate (text.toList.splitOn '/') ↔ _ :=
    mem_intercalate_slash hnul
  rw [List.intercalate_splitOn] at hjoin
  simpa [isImpossible, Path.pieces] using hjoin

theorem locate_eq_ok (h : disk.locate cwd path = .ok location) :
    isImpossible path = false ∧ disk.follow [] (piecesFrom cwd path) = .ok location := by
  unfold locate at h
  split at h
  · cases h
  · next hpossible =>
      split at h
      · cases h
      · exact ⟨by simpa using hpossible, h⟩

/-- **An absolute path that leads anywhere leads to the location made of its names.** -/
theorem location_of_locate (hpath : Path.isAbsolute path = true)
    (h : disk.locate cwd path = .ok location) : location = (Path.read path).names := by
  obtain ⟨-, hfollow⟩ := locate_eq_ok h
  rw [piecesFrom_of_isAbsolute hpath] at hfollow
  rw [follow_eq_ok hfollow, Path.foldl_turn_pieces hpath]

/-- The names that a possible path is read to hold are possible: they are pieces of it. -/
theorem isImpossible_of_mem_read {name : String} (hpath : isImpossible path = false)
    (h : name ∈ (Path.read path).names) : isImpossible name = false := by
  have hkept : name ∈ (Path.ofString path).names := by
    rcases Path.mem_foldl_push _ (List.mem_reverse.mp h) with hkept | hnil
    · exact hkept
    · simp at hnil
  by_contra himpossible
  rw [Bool.not_eq_false] at himpossible
  have hwhole := (isImpossible_iff_pieces path).mpr
    ⟨name, (List.mem_filter.mp hkept).1, himpossible⟩
  rw [hpath] at hwhole
  cases hwhole

/-- The normal form of an absolute path is possible when the names it is read to hold are. -/
theorem isImpossible_normalize (hpath : Path.isAbsolute path = true)
    (hnames : ∀ name ∈ (Path.read path).names, isImpossible name = false) :
    isImpossible (Path.normalize path) = false := by
  have ha : Path.anchorOf path ≠ .relative := (Path.isAbsolute_iff path).mp hpath
  obtain ⟨count, hpieces⟩ : ∃ count, Path.pieces (Path.normalize path) =
      List.replicate count "" ++ (Path.read path).names :=
    Path.exists_pieces_render ha (Path.isNormal_read path).legible
  by_contra hne
  rw [Bool.not_eq_false, isImpossible_iff_pieces, hpieces] at hne
  obtain ⟨piece, hpiece, himpossible⟩ := hne
  rcases List.mem_append.mp hpiece with hempty | hname
  · rw [List.eq_of_mem_replicate hempty] at himpossible
    exact absurd himpossible (by decide)
  · rw [hnames piece hname] at himpossible
    cases himpossible

/-- **The normal form of a path leads to the location made of its names**, if something is there. -/
theorem locate_normalize (hpath : Path.isAbsolute path = true)
    (hpossible : isImpossible path = false)
    (hat : (disk.at? (Path.read path).names).isSome = true) :
    disk.locate cwd (Path.normalize path) = .ok (Path.read path).names := by
  have ha : Path.anchorOf path ≠ .relative := (Path.isAbsolute_iff path).mp hpath
  have hnormal : Path.IsNormal ⟨Path.anchorOf path, (Path.read path).names⟩ :=
    Path.isNormal_read path
  have habsolute : Path.isAbsolute (Path.normalize path) = true := by
    rwa [Path.isAbsolute_normalize]
  obtain ⟨count, hpieces⟩ : ∃ count, Path.pieces (Path.normalize path) =
      List.replicate count "" ++ (Path.read path).names :=
    Path.exists_pieces_render ha hnormal.legible
  have hnul : isImpossible (Path.normalize path) = false :=
    isImpossible_normalize hpath fun _ => isImpossible_of_mem_read hpossible
  have hsteps : ∀ name ∈ (Path.read path).names, ¬ IsStep name := by
    intro name hname
    obtain ⟨⟨hlegible, -⟩, hdots⟩ := (Path.isNormal_iff ha _).mp hnormal name hname
    rw [IsStep, not_or, not_or]
    simp only [Path.isName, Bool.and_eq_true, bne_iff_ne] at hlegible
    exact ⟨hlegible.1, hlegible.2, hdots⟩
  have hempty : Path.normalize path ≠ "" := Path.ne_empty_of_isAbsolute habsolute
  rw [locate, if_neg (by simp [hnul]), if_neg (by simpa using hempty),
    piecesFrom_of_isAbsolute habsolute, hpieces, follow_replicate_empty]
  exact follow_names hsteps hat

/-- A normal path leads to the location made of its names, if something is there. -/
theorem locate_of_normal (hpath : Path.isAbsolute path = true)
    (hnormal : Path.normalize path = path) (hpossible : isImpossible path = false)
    (hat : (disk.at? (Path.read path).names).isSome = true) :
    disk.locate cwd path = .ok (Path.read path).names := by
  have hlocate : disk.locate cwd (Path.normalize path) = .ok (Path.read path).names :=
    locate_normalize hpath hpossible hat
  rwa [hnormal] at hlocate

/-- **The normal form of an absolute path leads to the same item.** -/
theorem item_normalize {item : Item (List UInt8)} (hpath : Path.isAbsolute path = true)
    (h : disk.item cwd path = .ok item) : disk.item cwd (Path.normalize path) = .ok item := by
  unfold Disk.item at h ⊢
  cases hlocate : disk.locate cwd path with
  | error fault =>
      rw [hlocate] at h
      cases h
  | ok location =>
      rw [hlocate] at h
      dsimp only at h
      split at h
      · cases h
      · next found hat =>
          obtain ⟨hpossible, -⟩ := locate_eq_ok hlocate
          obtain rfl := location_of_locate hpath hlocate
          rw [locate_normalize hpath hpossible (by rw [hat]; rfl)]
          dsimp only
          rw [hat]
          exact h

theorem kind?_normalize {kind : Kind} (hpath : Path.isAbsolute path = true)
    (h : disk.kind? cwd path = some kind) :
    disk.kind? cwd (Path.normalize path) = some kind := by
  unfold kind? at h ⊢
  cases hitem : disk.item cwd path with
  | error fault =>
      rw [hitem] at h
      cases h
  | ok item =>
      rw [hitem] at h
      rw [item_normalize hpath hitem]
      exact h

/-- **What is in a folder of an absolute normal path is in a folder.** -/
theorem kind?_of_join {folder name : String} {kind : Kind}
    (hfolder : Path.isAbsolute folder = true) (hnormal : Path.normalize folder = folder)
    (hname : Path.IsLegible name) (hdots : name ≠ "..")
    (h : disk.kind? cwd (Path.join [folder, name]) = some kind) :
    disk.kind? cwd folder = some .folder := by
  have hread : Path.read (Path.join [folder, name]) =
      ⟨Path.anchorOf folder, (Path.read folder).names ++ [name]⟩ :=
    Path.read_join_name folder hname hdots
  unfold kind? item at h
  cases hlocate : disk.locate cwd (Path.join [folder, name]) with
  | error fault =>
      rw [hlocate] at h
      cases h
  | ok location =>
      rw [hlocate] at h
      dsimp only at h
      cases hat : disk.at? location with
      | none =>
          rw [hat] at h
          cases h
      | some item =>
          -- the item lies in the folder at the names before its own
          obtain ⟨below, hbelow⟩ := Folder.at?_dropLast hat
          rw [location_of_locate (Path.isAbsolute_join hfolder _) hlocate, hread,
            List.dropLast_concat] at hbelow
          have hpossible : isImpossible folder = false := by
            obtain ⟨hjoin, -⟩ := locate_eq_ok hlocate
            rw [← hnormal]
            refine isImpossible_normalize hfolder fun other hother =>
              isImpossible_of_mem_read hjoin ?_
            rw [hread]
            exact List.mem_append_left _ hother
          have hreached : disk.locate cwd folder = .ok (Path.read folder).names :=
            locate_of_normal hfolder hnormal hpossible (by rw [hbelow]; rfl)
          rw [kind?, Disk.item, hreached]
          dsimp only
          rw [hbelow]
          rfl

/-- **The location of a file ends with the file name of each path to it.** -/
theorem getLast?_of_locate {octets : List UInt8} (h : disk.locate cwd path = .ok location)
    (hat : disk.at? location = some (.file octets)) :
    location.getLast? = some (Path.fileName path) := by
  have hkind : disk.kind? cwd path = some .file := by
    rw [kind?, item, h]
    dsimp only
    rw [hat]
    rfl
  -- the last piece of the path is followed last, wherever the path starts
  obtain ⟨front, piece, hfront, hlast⟩ : ∃ front piece,
      piecesFrom cwd path = front ++ [piece] ∧ (Path.pieces path).getLast? = some piece := by
    have hne : Path.pieces path ≠ [] := by
      simp [Path.pieces, List.splitOn_ne_nil]
    obtain ⟨front, piece, hpieces⟩ := (List.eq_nil_or_concat (Path.pieces path)).resolve_left hne
    rw [List.concat_eq_append] at hpieces
    have hlast : (Path.pieces path).getLast? = some piece := by simp [hpieces]
    unfold piecesFrom
    split
    · exact ⟨front, piece, hpieces, hlast⟩
    · refine ⟨Path.pieces cwd ++ front, piece, ?_, hlast⟩
      rw [Path.pieces_append_slash, hpieces, List.append_assoc]
  have hpiece : ¬ IsStep piece := by
    intro hstep
    refine kind?_ne_file_of_getLast? hstep ?_ hkind
    rw [hfront]
    simp
  obtain ⟨-, hfollow⟩ := locate_eq_ok h
  rw [hfront] at hfollow
  rw [Path.fileName_of_getLast?_pieces hpiece hlast, follow_eq_ok hfollow, List.foldl_append,
    List.foldl_cons, List.foldl_nil, turn]
  rw [IsStep, not_or, not_or] at hpiece
  obtain ⟨hempty, hdot, hdots⟩ := hpiece
  rw [if_neg (by simp [hempty, hdot]), if_neg hdots]
  simp

end Disk

end ModuleResolution
