import ModuleResolution.Proofs.Disk.Written
import ModuleResolution.Proofs.Settings.Editing

/-! # Storing documents

Storing a document makes the folder of its file and writes the file; of all that is on the disk only
this file changes (`changesOnly_store`), which holds the text of the document if storing succeeds
(`run_store_cases`). Where the file is there already it can be written (`exists_run_store`).
-/

set_option autoImplicit false

namespace ModuleResolution

open Yaml (Document)

/-! ## Settings files -/

namespace SettingsPlace

variable {settings : SettingsPlace} {scope : Scope}

theorem names_folder_ne_nil (settings : SettingsPlace) (scope : Scope) :
    (settings.folder scope).names ≠ [] := by
  simp [folder]

/-- A settings file is in the settings folder. -/
theorem file_eq (settings : SettingsPlace) (scope : Scope) :
    settings.file scope = (settings.folder scope).render ++ "/" ++ scope.fileName :=
  Path.render_concat _ (names_folder_ne_nil settings scope) _

/-- The settings folder is read as the path that it is. -/
theorem ofString_render_folder (settings : SettingsPlace) (scope : Scope) :
    Path.ofString (settings.folder scope).render = settings.folder scope := by
  refine Path.ofString_render fun name hname => ?_
  rcases List.mem_append.mp hname with hbase | hlast
  · exact Path.isLegible_of_mem_ofString hbase
  · obtain rfl := List.mem_singleton.mp hlast
    exact ⟨by decide, by decide⟩

/-! ## Files that change -/

variable {place : Place} {moment : String}

/-- All files are as they were, but the one that the path leads to afterwards. -/
structure ChangesOnly (path : String) (before after : Place) : Prop where
  cwd : after.cwd = before.cwd
  files : Folder.KeepsFiles (fun location => after.disk.locate after.cwd path = .ok location)
    before.disk after.disk

theorem ChangesOnly.refl (path : String) (place : Place) : ChangesOnly path place place :=
  ⟨rfl, .refl _ _⟩

/-- What a document is written as; one that cannot be written leaves an empty file. -/
def textOf (document : Document) : String := (Yaml.write document).toOption.getD ""

theorem octetsAt_of_write {disk after : Disk} {cwd path : String} {octets : List UInt8}
    (h : disk.write cwd path octets = .ok after) :
    Place.octetsAt ⟨after, cwd⟩ path = .ok octets := by
  obtain ⟨location, hlocate, hfile, -⟩ := Disk.isWritten_of_write h
  unfold Place.octetsAt Disk.readOctets Disk.item
  rw [hlocate]
  dsimp only
  rw [hfile]

/-- **The outcomes of storing a document**: the file cannot be written, and then every file is as it
was, or it holds the text of the document. -/
theorem run_store_cases (settings : SettingsPlace) (scope : Scope) (document : Document)
    (moment : String) (place : Place) :
    (∃ failure after, (settings.store scope document).run moment place =
        (.error (.unwritable failure), after) ∧ after.cwd = place.cwd ∧
      Folder.KeepsFiles (fun _ => False) place.disk after.disk) ∨
    (∃ after, (settings.store scope document).run moment place =
        ((Yaml.write document).mapError .valueless |>.map fun _ => (), after) ∧
      ChangesOnly (settings.file scope) place after ∧
      after.octetsAt (settings.file scope) = .ok (Utf8.encode (textOf document))) := by
  unfold store
  rw [Action.run]
  unfold Place.makeFolders
  -- first the folder, then the file: until the file is written, every file is as it was
  cases hmake : place.disk.makeFolders place.cwd (settings.folder scope).render with
  | error failure => exact .inl ⟨failure, place, rfl, rfl, .refl _ _⟩
  | ok made =>
      have hmade := Disk.keepsFiles_of_makeFolders hmake
      dsimp only [Place.changed]
      rw [Action.run]
      unfold Place.write
      rw [show (Yaml.write document).toOption.getD "" = textOf document from rfl]
      dsimp only
      cases hwrite : made.write place.cwd (settings.file scope)
          (Utf8.encode (textOf document)) with
      | error failure => exact .inl ⟨failure, { place with disk := made }, rfl, rfl, hmade⟩
      | ok after =>
          obtain ⟨location, hlocate, -, hkeeps⟩ := Disk.isWritten_of_write hwrite
          refine .inr ⟨{ place with disk := after }, rfl, ⟨rfl, ?_⟩, octetsAt_of_write hwrite⟩
          refine (hmade.mono fun _ => False.elim).trans (hkeeps.mono ?_)
          rintro _ rfl
          exact hlocate

/-- **Storing a document changes no other file**, whatever comes of it. -/
theorem changesOnly_store (settings : SettingsPlace) (scope : Scope) (document : Document)
    (moment : String) (place : Place) :
    ChangesOnly (settings.file scope) place
      ((settings.store scope document).run moment place).2 := by
  rcases run_store_cases settings scope document moment place with
    ⟨_, after, hrun, hcwd, hkeeps⟩ | ⟨after, hrun, hchanges, -⟩
  · rw [hrun]
    exact ⟨hcwd, hkeeps.mono fun _ => False.elim⟩
  · rw [hrun]
    exact hchanges

/-- **The file can be written where it is there already**, and nothing else comes or goes. -/
theorem exists_run_store {document : Document}
    (hfile : place.kind? (settings.file scope) = some .file) (moment : String) :
    ∃ after, (settings.store scope document).run moment place =
        ((Yaml.write document).mapError .valueless |>.map fun _ => (), after) ∧
      after.octetsAt (settings.file scope) = .ok (Utf8.encode (textOf document)) ∧
      ∀ path, after.kind? path = place.kind? path := by
  have hfolder : place.disk.kind? place.cwd (settings.folder scope).render = some .folder := by
    rw [file_eq] at hfile
    refine Disk.kind?_of_append (fun hempty => ?_) (by cases scope <;> decide) hfile
    have hfolder := ofString_render_folder settings scope
    rw [hempty] at hfolder
    exact names_folder_ne_nil settings scope (congrArg Path.names hfolder).symm
  -- a file that is there lies in its folder, so no folder is made
  have hmake : place.disk.makeFolders place.cwd (settings.folder scope).render =
      .ok place.disk := by
    unfold Disk.makeFolders
    rw [ofString_render_folder]
    exact Disk.makeFoldersAt_of_kind? (by rw [List.reverse_reverse]; exact hfolder)
  obtain ⟨after, hwrite, hkinds⟩ := Disk.exists_write hfile (Utf8.encode (textOf document))
  have hrun : (settings.store scope document).run moment place =
      ((Yaml.write document).mapError .valueless |>.map fun _ => (),
        { place with disk := after }) := by
    unfold store
    rw [Action.run]
    unfold Place.makeFolders
    rw [hmake]
    dsimp only [Place.changed]
    rw [Action.run]
    unfold Place.write
    rw [show (Yaml.write document).toOption.getD "" = textOf document from rfl, hwrite]
    rfl
  exact ⟨_, hrun, octetsAt_of_write hwrite, fun path => (Disk.kind?_eq hkinds place.cwd path).symm⟩

end SettingsPlace

end ModuleResolution
