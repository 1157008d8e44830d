import ModuleResolution.Proofs.Disk.Agreement

/-! # Disks that are written to

A change in one folder touches no file elsewhere (`Folder.keepsFiles_modifyAt`). So when folders are
made every file stays (`Disk.keepsFiles_of_makeFolders`), and when a file is written it holds what is
written, and every other file stays (`Disk.isWritten_of_write`). Writing to a file that is there does
not fail (`Disk.exists_write`).
-/

set_option autoImplicit false

namespace ModuleResolution

namespace Item

variable {α : Type}

/-- The item holds this, if it is a file. -/
def filled (content : α) : Item α → Item α
  | .file _ => .file content
  | .folder below => .folder below

/-- The item has this change made to it, if it is a folder. -/
def changed (change : Folder α → Folder α) : Item α → Item α
  | .file content => .file content
  | .folder below => .folder (change below)

def at? : Item α → List String → Option (Item α)
  | item, [] => some item
  | .file _, _ :: _ => none
  | .folder below, location => below.at? location

theorem at?_folder (below : Folder α) (location : List String) :
    (Item.folder below).at? location = below.at? location := by
  cases location <;> rfl

end Item

namespace Folder

variable {α : Type} {folder below : Folder α} {front back location : List String}
  {name other : String}

/-! ## Entries -/

def cons (name : String) : Item α → Folder α → Folder α
  | .file content, rest => .file name content rest
  | .folder below, rest => .subfolder name below rest

theorem get?_cons (first : String) (item : Item α) (rest : Folder α) (name : String) :
    (cons first item rest).get? name = if first = name then some item else rest.get? name := by
  cases item <;> rfl

/-- What a walk to the entry of a name comes to, that changes the entry or puts one at the end. -/
theorem get?_of_walk {walk : Folder α → Folder α} {change : Item α → Item α}
    {last : Option (Item α)}
    (hempty : ∀ other, (walk .empty).get? other = if name = other then last else none)
    (hcons : ∀ first item rest, walk (cons first item rest) =
      if first = name then cons first (change item) rest else cons first item (walk rest))
    (folder : Folder α) (other : String) :
    (walk folder).get? other =
      if name = other then ((folder.get? name).map change).or last else folder.get? other := by
  have hstep : ∀ (first : String) (item : Item α) (rest : Folder α),
      (walk rest).get? other =
        (if name = other then ((rest.get? name).map change).or last else rest.get? other) →
      (walk (cons first item rest)).get? other =
        if name = other then (((cons first item rest).get? name).map change).or last
        else (cons first item rest).get? other := by
    intro first item rest ih
    rw [hcons]
    by_cases hfirst : first = name
    · subst hfirst
      rw [if_pos rfl, get?_cons, get?_cons, get?_cons, if_pos rfl]
      by_cases hother : first = other
      · rw [if_pos hother, if_pos hother]
        rfl
      · rw [if_neg hother, if_neg hother, if_neg hother]
    · rw [if_neg hfirst, get?_cons, get?_cons, get?_cons, if_neg hfirst, ih]
      by_cases hother : first = other
      · have hne : ¬ name = other := fun hsame => hfirst (hother.trans hsame.symm)
        rw [if_pos hother, if_neg hne, if_pos hother]
      · rw [if_neg hother, if_neg hother]
  -- both kinds of entries are walked over in the same way
  induction folder with
  | empty => exact hempty other
  | file first content rest ih => exact hstep first (.file content) rest ih
  | subfolder first below rest _ ih => exact hstep first (.folder below) rest ih

theorem get?_setFile (folder : Folder α) (name other : String) (content : α) :
    (folder.setFile name content).get? other =
      if name = other then ((folder.get? name).map (Item.filled content)).or (some (.file content))
      else folder.get? other := by
  refine get?_of_walk (fun other => rfl) (fun first item rest => ?_) folder other
  cases item <;> exact rfl

theorem get?_addFolder (folder : Folder α) (name other : String) :
    (folder.addFolder name).get? other =
      if name = other then (folder.get? name).or (some (.folder .empty))
      else folder.get? other := by
  have hcons : ∀ (first : String) (item : Item α) (rest : Folder α),
      addFolder name (cons first item rest) =
        if first = name then cons first (id item) rest
        else cons first item (addFolder name rest) := by
    intro first item rest
    cases item <;> rfl
  rw [get?_of_walk (fun other => rfl) hcons folder other, Option.map_id]
  rfl

theorem get?_modify (folder : Folder α) (name other : String) (change : Folder α → Folder α) :
    (folder.modify name change).get? other =
      if name = other then (folder.get? name).map (Item.changed change)
      else folder.get? other := by
  have hempty : ∀ other, (modify name change .empty).get? other =
      if name = other then none else none := fun other => (ite_self none).symm
  have hcons : ∀ (first : String) (item : Item α) (rest : Folder α),
      modify name change (cons first item rest) =
        if first = name then cons first (item.changed change) rest
        else cons first item (modify name change rest) := by
    intro first item rest
    cases item <;> rfl
  rw [get?_of_walk hempty hcons folder other, Option.or_none]

/-! ## Locations -/

theorem at?_cons (folder : Folder α) (name : String) (rest : List String) :
    folder.at? (name :: rest) = (folder.get? name).bind fun item => item.at? rest := by
  cases rest with
  | nil =>
      show folder.get? name = _
      cases folder.get? name with
      | none => rfl
      | some item => cases item <;> rfl
  | cons next rest =>
      rw [at?]
      · cases folder.get? name with
        | none => rfl
        | some item => cases item <;> rfl
      · exact List.cons_ne_nil next rest

/-- The folder that is changed is where it was. -/
theorem at?_modifyAt_self (change : Folder α → Folder α)
    (h : folder.at? front = some (.folder below)) :
    (folder.modifyAt change front).at? front = some (.folder (change below)) := by
  induction front generalizing folder with
  | nil =>
      cases h
      rfl
  | cons name rest ih =>
      rw [at?_cons] at h ⊢
      rw [modifyAt, get?_modify, if_pos rfl]
      obtain ⟨item, hitem, hrest⟩ := Option.bind_eq_some_iff.mp h
      rw [hitem]
      cases item with
      | file content => cases rest <;> cases hrest
      | folder inner =>
          rw [Item.at?_folder] at hrest
          exact (Item.at?_folder _ _).trans (ih hrest)

theorem at?_modifyAt_append (change : Folder α → Folder α)
    (h : folder.at? front = some (.folder below)) (back : List String) :
    (folder.modifyAt change front).at? (front ++ back) = (change below).at? back :=
  at?_append (at?_modifyAt_self change h) back

/-- What is not behind the folder that is changed stays, unless it is a folder around it. -/
theorem at?_modifyAt_of_not_prefix (change : Folder α → Folder α)
    (h : folder.at? front = some (.folder below)) (hlocation : ¬ front <+: location) :
    (folder.modifyAt change front).at? location = folder.at? location ∨
      (∃ inner, folder.at? location = some (.folder inner)) ∧
        ∃ inner, (folder.modifyAt change front).at? location = some (.folder inner) := by
  induction front generalizing folder location with
  | nil => exact absurd List.nil_prefix hlocation
  | cons name rest ih =>
      cases location with
      | nil => exact .inr ⟨⟨_, rfl⟩, ⟨_, rfl⟩⟩
      | cons other more =>
          rw [at?_cons] at h
          obtain ⟨item, hitem, hrest⟩ := Option.bind_eq_some_iff.mp h
          rw [at?_cons, at?_cons, modifyAt, get?_modify]
          -- the change goes on below this name, and every other entry is passed by
          by_cases hname : name = other
          · subst hname
            have hmore : ¬ rest <+: more := fun hprefix =>
              hlocation (List.cons_prefix_cons.mpr ⟨rfl, hprefix⟩)
            rw [if_pos rfl, hitem]
            cases item with
            | file content => exact .inl rfl
            | folder inner =>
                rw [Item.at?_folder] at hrest
                show (Item.folder _).at? more = (Item.folder inner).at? more ∨ _
                rw [Option.map_some, Option.bind_some, Option.bind_some]
                rw [show (Item.folder inner).changed (modifyAt change rest) =
                  .folder (modifyAt change rest inner) from rfl, Item.at?_folder, Item.at?_folder]
                exact ih hrest hmore
          · rw [if_neg hname]
            exact .inl rfl

/-! ## Files that stay -/

/-- Every file stays as it is, except at some locations, and no file is added elsewhere; every folder
stays one. -/
structure KeepsFiles (isChanged : List String → Prop) (before after : Folder α) : Prop where
  files (location : List String) (h : ¬ isChanged location) (content : α) :
    after.at? location = some (.file content) ↔ before.at? location = some (.file content)
  folders (location : List String) (h : ∃ inner, before.at? location = some (.folder inner)) :
    ∃ inner, after.at? location = some (.folder inner)

variable {isChanged : List String → Prop} {before after : Folder α}

theorem KeepsFiles.refl (isChanged : List String → Prop) (folder : Folder α) :
    KeepsFiles isChanged folder folder := ⟨fun _ _ _ => Iff.rfl, fun _ h => h⟩

theorem KeepsFiles.trans {third : Folder α} (h : KeepsFiles isChanged before after)
    (h' : KeepsFiles isChanged after third) : KeepsFiles isChanged before third :=
  ⟨fun location hkept content =>
      (h'.files location hkept content).trans (h.files location hkept content),
    fun location hfolder => h'.folders location (h.folders location hfolder)⟩

theorem KeepsFiles.mono {isChanged' : List String → Prop} (h : KeepsFiles isChanged before after)
    (himp : ∀ location, isChanged location → isChanged' location) :
    KeepsFiles isChanged' before after :=
  ⟨fun location hkept => h.files location fun hchanged => hkept (himp location hchanged),
    h.folders⟩

/-- **A change in a folder that keeps files keeps files.** -/
theorem keepsFiles_modifyAt {change : Folder α → Folder α}
    (h : folder.at? front = some (.folder below))
    (hchange : KeepsFiles (fun back => isChanged (front ++ back)) below (change below)) :
    KeepsFiles isChanged folder (folder.modifyAt change front) := by
  constructor
  · intro location hkept content
    by_cases hprefix : front <+: location
    · obtain ⟨back, rfl⟩ := hprefix
      rw [at?_modifyAt_append change h, at?_append h]
      exact hchange.files back hkept content
    · rcases at?_modifyAt_of_not_prefix change h hprefix with hsame | ⟨⟨_, hold⟩, _, hnew⟩
      · rw [hsame]
      · rw [hold, hnew]
        exact ⟨nofun, nofun⟩
  · intro location hfolder
    by_cases hprefix : front <+: location
    · obtain ⟨back, rfl⟩ := hprefix
      rw [at?_append h] at hfolder
      rw [at?_modifyAt_append change h]
      exact hchange.folders back hfolder
    · rcases at?_modifyAt_of_not_prefix change h hprefix with hsame | ⟨-, hnew⟩
      · rw [hsame]
        exact hfolder
      · exact hnew

/-- Behind what is not there or is a file nothing is. -/
theorem bind_at?_of_ne_folder {item? : Option (Item α)}
    (h : ∀ inner, item? ≠ some (.folder inner)) (next : String) (rest : List String) :
    (item?.bind fun item => item.at? (next :: rest)) = none := by
  cases item? with
  | none => rfl
  | some item =>
      cases item with
      | file content => rfl
      | folder inner => exact absurd rfl (h inner)

theorem keepsFiles_setFile (h : ∀ inner, folder.get? name ≠ some (.folder inner)) (content : α) :
    KeepsFiles (· = [name]) folder (folder.setFile name content) := by
  have hself : (folder.setFile name content).get? name = some (.file content) := by
    rw [get?_setFile, if_pos rfl]
    rcases hget : folder.get? name with _ | (old | inner)
    · rfl
    · rfl
    · exact absurd hget (h inner)
  have hother : ∀ {other : String}, other ≠ name →
      (folder.setFile name content).get? other = folder.get? other := by
    intro other hne
    rw [get?_setFile, if_neg (Ne.symm hne)]
  have hself' : ∀ inner, (folder.setFile name content).get? name ≠ some (.folder inner) := by
    rw [hself]
    exact fun _ => nofun
  -- below the name nothing was and nothing is: it stands for no folder, before or after
  constructor
  · intro location hkept other
    cases location with
    | nil => exact ⟨nofun, nofun⟩
    | cons first rest =>
        rw [at?_cons, at?_cons]
        by_cases hfirst : first = name
        · subst hfirst
          cases rest with
          | nil => exact absurd rfl hkept
          | cons next rest => rw [bind_at?_of_ne_folder h, bind_at?_of_ne_folder hself']
        · rw [hother hfirst]
  · intro location hfolder
    cases location with
    | nil => exact ⟨_, rfl⟩
    | cons first rest =>
        rw [at?_cons] at hfolder ⊢
        by_cases hfirst : first = name
        · subst hfirst
          cases rest with
          | nil =>
              obtain ⟨inner, hinner⟩ := hfolder
              obtain ⟨item, hitem, hsame⟩ := Option.bind_eq_some_iff.mp hinner
              cases hsame
              exact absurd hitem (h inner)
          | cons next rest =>
              rw [bind_at?_of_ne_folder h] at hfolder
              obtain ⟨_, hnone⟩ := hfolder
              cases hnone
        · rw [hother hfirst]
          exact hfolder

theorem keepsFiles_addFolder (folder : Folder α) (name : String) :
    KeepsFiles (fun _ => False) folder (folder.addFolder name) := by
  have hother : ∀ {other : String}, (other ≠ name ∨ folder.get? name ≠ none) →
      (folder.addFolder name).get? other = folder.get? other := by
    intro other h
    rw [get?_addFolder]
    split
    · next hsame =>
        subst hsame
        obtain ⟨item, hitem⟩ := Option.ne_none_iff_exists'.mp (h.resolve_left fun hne => hne rfl)
        rw [hitem]
        rfl
    · rfl
  have hmissing : folder.get? name = none →
      (folder.addFolder name).get? name = some (.folder .empty) := by
    intro hnone
    rw [get?_addFolder, if_pos rfl, hnone]
    rfl
  -- the folder is added only where nothing is, and there are no files in it
  constructor
  · intro location _ content
    cases location with
    | nil => exact ⟨nofun, nofun⟩
    | cons first rest =>
        rw [at?_cons, at?_cons]
        by_cases hfirst : first = name ∧ folder.get? name = none
        · obtain ⟨rfl, hnone⟩ := hfirst
          rw [hmissing hnone, hnone]
          cases rest with
          | nil => exact ⟨nofun, nofun⟩
          | cons next rest => cases rest <;> exact ⟨nofun, nofun⟩
        · rw [hother (not_and_or.mp hfirst)]
  · intro location hfolder
    cases location with
    | nil => exact ⟨_, rfl⟩
    | cons first rest =>
        rw [at?_cons] at hfolder ⊢
        by_cases hfirst : first = name ∧ folder.get? name = none
        · obtain ⟨rfl, hnone⟩ := hfirst
          rw [hnone] at hfolder
          obtain ⟨_, hinner⟩ := hfolder
          cases hinner
        · rw [hother (not_and_or.mp hfirst)]
          exact hfolder

/-- Files that are there hold other things: the kinds stay. -/
theorem sameKinds_modifyAt_setFile {old : α} (h : folder.at? front = some (.folder below))
    (hfile : below.get? name = some (.file old)) (content : α) :
    folder.SameKinds (folder.modifyAt (·.setFile name content) front) := by
  intro location
  by_cases hprefix : front <+: location
  · obtain ⟨back, rfl⟩ := hprefix
    rw [at?_modifyAt_append _ h, at?_append h]
    cases back with
    | nil => rfl
    | cons first rest =>
        rw [at?_cons, at?_cons, get?_setFile]
        split
        · next hsame =>
            subst hsame
            rw [hfile]
            cases rest <;> rfl
        · rfl
  · rcases at?_modifyAt_of_not_prefix (·.setFile name content) h hprefix with
      hsame | ⟨⟨_, hold⟩, _, hnew⟩
    · rw [hsame]
    · rw [hold, hnew]
      rfl

end Folder

namespace Disk

variable {disk after : Disk} {cwd path name : String} {location front back : List String}
  {octets : List UInt8}

/-! ## Paths on a disk that keeps its files -/

theorem follow_append (disk : Disk) (location front back : List String) :
    disk.follow location (front ++ back) =
      (disk.follow location front).bind fun reached => disk.follow reached back := by
  induction front generalizing location with
  | nil => rfl
  | cons piece rest ih =>
      rw [List.cons_append, follow, follow]
      rcases disk.at? location with _ | (_ | _)
      · rfl
      · rfl
      · dsimp only
        split
        · exact ih location
        · split
          · exact ih _
          · cases disk.at? (location ++ [piece]) with
            | none => rfl
            | some item => exact ih _

/-- A path that leads somewhere leads there when more is on the disk. -/
theorem follow_of_keepsFiles {isChanged : List String → Prop}
    (hkeeps : Folder.KeepsFiles isChanged disk after)
    (hchanged : ∀ location, isChanged location → (after.at? location).isSome)
    {location pieces reached : List String} (h : disk.follow location pieces = .ok reached) :
    after.follow location pieces = .ok reached := by
  have hthere : ∀ location item, disk.at? location = some item →
      ∃ other, after.at? location = some other := by
    intro location item hitem
    cases item with
    | folder inner =>
        obtain ⟨other, hother⟩ := hkeeps.folders location ⟨inner, hitem⟩
        exact ⟨_, hother⟩
    | file content =>
        by_cases hlocation : isChanged location
        · exact Option.isSome_iff_exists.mp (hchanged location hlocation)
        · exact ⟨_, (hkeeps.files location hlocation content).mpr hitem⟩
  -- the way is the same: each folder on it stays a folder, whatever is changed in it
  induction pieces generalizing location with
  | nil => exact h
  | cons piece rest ih =>
      rw [follow] at h ⊢
      rcases hhere : disk.at? location with _ | (content | inner)
      · rw [hhere] at h
        cases h
      · rw [hhere] at h
        cases h
      · rw [hhere] at h
        obtain ⟨other, hother⟩ := hkeeps.folders location ⟨inner, hhere⟩
        rw [hother]
        dsimp only at h ⊢
        split
        · next hstay =>
            rw [if_pos hstay] at h
            exact ih h
        · next hgo =>
            rw [if_neg hgo] at h
            split
            · next hup =>
                rw [if_pos hup] at h
                exact ih h
            · next hname =>
                rw [if_neg hname] at h
                cases hitem : disk.at? (location ++ [piece]) with
                | none =>
                    rw [hitem] at h
                    cases h
                | some item =>
                    rw [hitem] at h
                    obtain ⟨found, hfound⟩ := hthere _ item hitem
                    rw [hfound]
                    exact ih h

/-! ## Writing -/

/-- A path that something can be put at ends in a name, and leads to a folder in front of it. -/
theorem vacancy_eq_some (h : disk.vacancy cwd path = some (location, name)) :
    ∃ front below, piecesFrom cwd path = front ++ [name] ∧ ¬ IsStep name ∧
      disk.follow [] front = .ok location ∧ disk.at? location = some (.folder below) := by
  unfold vacancy at h
  dsimp only at h
  split at h
  · cases h
  · next last hlast =>
      split at h
      · cases h
      · next hname =>
          split at h
          · next reached hfollow =>
              split at h
              · next below hat =>
                  cases h
                  obtain ⟨front, hfront⟩ := List.getLast?_eq_some_iff.mp hlast
                  rw [hfront, List.dropLast_concat] at hfollow
                  refine ⟨front, below, hfront, ?_, hfollow, hat⟩
                  simpa [IsStep, not_or, and_assoc] using hname
              · cases h
          · cases h

/-- A name is followed to what has it in a folder. -/
theorem follow_name {below : Folder (List UInt8)} (hname : ¬ IsStep name)
    (h : disk.at? location = some (.folder below)) :
    disk.follow location [name] =
      if (below.get? name).isSome then .ok (location ++ [name]) else .error .missing := by
  rw [IsStep, not_or, not_or] at hname
  obtain ⟨hempty, hdot, hdots⟩ := hname
  rw [follow, h]
  dsimp only
  rw [if_neg (by simp [hempty, hdot]), if_neg hdots, Folder.at?_append h, Folder.at?_singleton]
  cases below.get? name <;> rfl

theorem ne_nil_of_at?_file {old : List UInt8} (h : disk.at? location = some (.file old)) :
    ∃ front name below, location = front ++ [name] ∧ disk.at? front = some (.folder below) ∧
      below.get? name = some (.file old) := by
  rcases List.eq_nil_or_concat location with rfl | ⟨front, name, rfl⟩
  · cases h
  · rw [List.concat_eq_append] at h ⊢
    obtain ⟨below, hbelow⟩ := Folder.at?_dropLast h
    rw [List.dropLast_concat] at hbelow
    rw [Folder.at?_append hbelow, Folder.at?_singleton] at h
    exact ⟨front, name, below, rfl, hbelow, h⟩

theorem exists_at?_of_kind? {kind : Kind} (h : disk.kind? cwd path = some kind) :
    ∃ location item, disk.locate cwd path = .ok location ∧ disk.at? location = some item ∧
      item.kind = kind := by
  unfold kind? at h
  cases hitem : disk.item cwd path with
  | error fault =>
      rw [hitem] at h
      cases h
  | ok found =>
      rw [hitem] at h
      obtain ⟨location, hlocate, hat⟩ := exists_at?_of_item hitem
      exact ⟨location, found, hlocate, hat, Option.some.inj h⟩

/-- **Writing to a file that is there** leads to a disk of the same kinds. -/
theorem exists_write (h : disk.kind? cwd path = some .file) (octets : List UInt8) :
    ∃ after, disk.write cwd path octets = .ok after ∧ disk.SameKinds after := by
  obtain ⟨location, item, hlocate, hat, hkind⟩ := exists_at?_of_kind? h
  cases item with
  | folder inner => cases hkind
  | file old =>
      obtain ⟨front, name, below, rfl, hbelow, hfile⟩ := ne_nil_of_at?_file hat
      refine ⟨disk.modifyAt (·.setFile name octets) front, ?_,
        Folder.sameKinds_modifyAt_setFile hbelow hfile octets⟩
      rw [write, hlocate]
      dsimp only
      rw [hat, List.dropLast_concat, List.getLastD_concat]

/-- A file that is set in a folder holds what it is set to, and every other file stays. -/
theorem isWritten_setFile {below : Folder (List UInt8)}
    (hbelow : disk.at? front = some (.folder below))
    (hname : ∀ inner, below.get? name ≠ some (.folder inner)) (octets : List UInt8) :
    (disk.modifyAt (·.setFile name octets) front).at? (front ++ [name]) = some (.file octets) ∧
      Folder.KeepsFiles (· = front ++ [name]) disk
        (disk.modifyAt (·.setFile name octets) front) := by
  constructor
  · rw [Folder.at?_modifyAt_append _ hbelow, Folder.at?_singleton, Folder.get?_setFile,
      if_pos rfl]
    rcases hget : below.get? name with _ | (old | inner)
    · rfl
    · rfl
    · exact absurd hget (hname inner)
  · refine Folder.keepsFiles_modifyAt hbelow ((Folder.keepsFiles_setFile hname octets).mono ?_)
    rintro back rfl
    rfl

/-- A path that leads nowhere, but that something can be put at, leads to a folder without an entry
of its last name. -/
theorem exists_of_vacancy (hlocate : disk.locate cwd path = .error .missing)
    (hvacancy : disk.vacancy cwd path = some (front, name)) :
    isImpossible path = false ∧ path.isEmpty = false ∧
      ∃ pieces below, piecesFrom cwd path = pieces ++ [name] ∧ ¬ IsStep name ∧
        disk.follow [] pieces = .ok front ∧ disk.at? front = some (.folder below) ∧
        below.get? name = none := by
  obtain ⟨pieces, below, hpieces, hname, hfollow, hbelow⟩ := vacancy_eq_some hvacancy
  unfold locate at hlocate
  split at hlocate
  · cases hlocate
  · next hpossible =>
      split at hlocate
      · next hempty =>
          -- an empty path does not end in a name
          obtain rfl := String.isEmpty_iff.mp hempty
          have hpieces' : piecesFrom cwd "" = Path.pieces cwd ++ [""] :=
            Path.pieces_append_slash cwd ""
          rw [hpieces] at hpieces'
          have hlast := (List.append_inj' hpieces' rfl).2
          exact absurd (Or.inl (List.cons.inj hlast).1) hname
      · next hempty =>
          rw [hpieces, follow_append, hfollow] at hlocate
          have hlast : disk.follow front [name] = .error .missing := hlocate
          rw [follow_name hname hbelow] at hlast
          have hnone : below.get? name = none := by
            cases hget : below.get? name with
            | none => rfl
            | some item =>
                rw [hget] at hlast
                cases hlast
          exact ⟨by simpa using hpossible, by simpa using hempty,
            pieces, below, hpieces, hname, hfollow, hbelow, hnone⟩

/-- **A file that has been written holds what was written, and every other file is as it was.** -/
theorem isWritten_of_write (h : disk.write cwd path octets = .ok after) :
    ∃ location, after.locate cwd path = .ok location ∧
      after.at? location = some (.file octets) ∧
      Folder.KeepsFiles (· = location) disk after := by
  unfold write at h
  -- the file is there, and then the way to it does not change; or it is new, and then its
  -- folder was there, so the way to the folder is the start of the way to the file
  cases hlocate : disk.locate cwd path with
  | ok location =>
      rw [hlocate] at h
      dsimp only at h
      split at h
      · next old hat =>
          obtain ⟨front, name, below, rfl, hbelow, hfile⟩ := ne_nil_of_at?_file hat
          cases h
          rw [List.dropLast_concat, List.getLastD_concat]
          obtain ⟨hwritten, hkeeps⟩ :=
            isWritten_setFile hbelow (fun inner => by rw [hfile]; exact nofun) octets
          refine ⟨front ++ [name], ?_, hwritten, hkeeps⟩
          rw [← locate_eq (Folder.sameKinds_modifyAt_setFile hbelow hfile octets), hlocate]
      · cases h
  | error fault =>
      rw [hlocate] at h
      dsimp only at h
      split at h
      · next front name hvacancy =>
          cases h
          obtain ⟨hpossible, hempty, pieces, below, hpieces, hname, hfollow, hbelow, hnone⟩ :=
            exists_of_vacancy hlocate hvacancy
          obtain ⟨hwritten, hkeeps⟩ :=
            isWritten_setFile hbelow (fun inner => by rw [hnone]; exact nofun) octets
          refine ⟨front ++ [name], ?_, hwritten, hkeeps⟩
          have hreached := follow_of_keepsFiles hkeeps
            (fun location hlocation => by rw [hlocation, hwritten]; rfl) hfollow
          obtain ⟨inner, hinner⟩ := hkeeps.folders front ⟨below, hbelow⟩
          have hfile : inner.get? name = some (.file octets) := by
            rw [Folder.at?_append hinner, Folder.at?_singleton] at hwritten
            exact hwritten
          unfold locate
          rw [if_neg (by simp [hpossible]), if_neg (by simp [hempty]), hpieces, follow_append,
            hreached]
          show follow _ front [name] = _
          rw [follow_name hname hinner, hfile]
          rfl
      · cases h

/-! ## Making folders -/

theorem keepsFiles_of_makeFolder (h : disk.makeFolder cwd path = .ok after) :
    Folder.KeepsFiles (fun _ => False) disk after := by
  unfold makeFolder at h
  split at h
  · cases h
  · split at h
    · next location name hvacancy _ =>
        cases h
        obtain ⟨_, below, -, -, -, hbelow⟩ := vacancy_eq_some hvacancy
        exact Folder.keepsFiles_modifyAt hbelow (Folder.keepsFiles_addFolder below name)
    · cases h

theorem eq_of_settle {failure : DiskFailure} (h : disk.settle cwd path failure = .ok after) :
    after = disk := by
  unfold settle at h
  split at h
  · exact (Except.ok.inj h).symm
  · cases h

theorem keepsFiles_of_makeFoldersAt {anchor : Anchor} {names : List String}
    (h : disk.makeFoldersAt cwd anchor names = .ok after) :
    Folder.KeepsFiles (fun _ => False) disk after := by
  induction names generalizing after with
  | nil =>
      rw [makeFoldersAt] at h
      dsimp only at h
      split at h
      · next made hmade =>
          cases h
          exact keepsFiles_of_makeFolder hmade
      · split at h
        · cases h
        · rw [eq_of_settle h]
          exact .refl _ _
  | cons name above ih =>
      rw [makeFoldersAt] at h
      dsimp only at h
      split at h
      · next made hmade =>
          cases h
          exact keepsFiles_of_makeFolder hmade
      · split at h
        · -- the folder above is made first
          split at h
          · cases h
          · next middle hmiddle =>
              refine (ih hmiddle).trans ?_
              split at h
              · next made hmade =>
                  cases h
                  exact keepsFiles_of_makeFolder hmade
              · rw [eq_of_settle h]
                exact .refl _ _
        · rw [eq_of_settle h]
          exact .refl _ _

/-- **Making folders keeps every file.** -/
theorem keepsFiles_of_makeFolders (h : disk.makeFolders cwd path = .ok after) :
    Folder.KeepsFiles (fun _ => False) disk after := keepsFiles_of_makeFoldersAt h

/-- A folder that is there need not be made. -/
theorem makeFoldersAt_of_kind? {anchor : Anchor} {names : List String}
    (h : disk.kind? cwd (Path.render ⟨anchor, names.reverse⟩) = some .folder) :
    disk.makeFoldersAt cwd anchor names = .ok disk := by
  obtain ⟨location, item, hlocate, -, -⟩ := exists_at?_of_kind? h
  have hmake : disk.makeFolder cwd (Path.render ⟨anchor, names.reverse⟩) =
      .error ⟨.taken, Path.render ⟨anchor, names.reverse⟩⟩ := by
    rw [makeFolder, hlocate]
  rw [makeFoldersAt, hmake]
  dsimp only
  rw [if_neg nofun, settle, if_pos h]

/-- What has something in it is a folder. -/
theorem kind?_of_append {folder name : String} {kind : Kind} (hfolder : folder ≠ "")
    (hname : '/' ∉ name.toList) (h : disk.kind? cwd (folder ++ "/" ++ name) = some kind) :
    disk.kind? cwd folder = some .folder := by
  obtain ⟨location, item, hlocate, -, -⟩ := exists_at?_of_kind? h
  obtain ⟨hpossible, hfollow⟩ := locate_eq_ok hlocate
  have hname' : Path.pieces name = [name] := Path.pieces_of_slash_not_mem hname
  have hpieces : piecesFrom cwd (folder ++ "/" ++ name) = piecesFrom cwd folder ++ [name] := by
    have habsolute : Path.isAbsolute (folder ++ "/" ++ name) = Path.isAbsolute folder := by
      unfold Path.isAbsolute
      rw [String.toList_append, String.toList_append, List.append_assoc]
      cases htext : folder.toList with
      | nil => exact absurd (String.toList_eq_nil_iff.mp htext) hfolder
      | cons first rest => rfl
    unfold piecesFrom
    rw [habsolute]
    split
    · rw [Path.pieces_append_slash, hname']
    · rw [← String.append_assoc, ← String.append_assoc, Path.pieces_append_slash, hname',
        String.append_assoc]
  -- the last step of the way goes on from the folder, which only a folder lets it do
  rw [hpieces, follow_append] at hfollow
  cases hreached : disk.follow [] (piecesFrom cwd folder) with
  | error fault =>
      rw [hreached] at hfollow
      cases hfollow
  | ok reached =>
      rw [hreached] at hfollow
      have hlast : disk.follow reached [name] = .ok location := hfollow
      have hlocated : disk.locate cwd folder = .ok reached := by
        rw [isImpossible_append, isImpossible_append] at hpossible
        simp only [Bool.or_eq_false_iff] at hpossible
        unfold locate
        rw [if_neg (by simp [hpossible]), if_neg (by simpa using hfolder), hreached]
      rw [follow] at hlast
      rw [kind?, Disk.item, hlocated]
      dsimp only
      split at hlast
      · cases hlast
      · cases hlast
      · next inner hinner =>
          rw [hinner]
          rfl

end Disk

end ModuleResolution
