import ModuleResolution.Lookup.Basic
import ModuleResolution.Proofs.Path.Normal

/-! # What a path leads to

A location of a disk lies in folders all the way (`at?_dropLast`). So following a path can only
end at a file when its last piece is a name: after a slash, `.` or `..` there is a folder
(`kind?_ne_file_of_getLast?`). A file at an absolute path in a normal folder has therefore a
normal path, whatever text its last name was put together from (`isNormal_of_file`).
-/

set_option autoImplicit false

namespace ModuleResolution

/-- A piece of a path that names nothing in the folder reached so far. -/
def IsStep (piece : String) : Prop := piece = "" ∨ piece = "." ∨ piece = ".."

namespace Folder

/-- What lies behind the first name of a location lies in the folder of that name. -/
theorem at?_cons_cons {α : Type} {name next : String} {rest : List String} {folder : Folder α}
    {item : Item α} (h : folder.at? (name :: next :: rest) = some item) :
    ∃ below, folder.get? name = some (.folder below) ∧ below.at? (next :: rest) = some item := by
  rw [at?] at h
  · cases hget : folder.get? name with
    | none => simp [hget] at h
    | some entry =>
        cases entry with
        | file content => simp [hget] at h
        | folder below =>
            rw [hget] at h
            exact ⟨below, rfl, h⟩
  · simp

/-- What an item is in is a folder. -/
theorem at?_dropLast {α : Type} {location : List String} {folder : Folder α} {item : Item α}
    (h : folder.at? location = some item) :
    ∃ below, folder.at? location.dropLast = some (.folder below) := by
  induction location generalizing folder with
  | nil => exact ⟨folder, rfl⟩
  | cons name rest ih =>
      cases rest with
      | nil => exact ⟨folder, rfl⟩
      | cons next rest =>
          obtain ⟨below, hget, hrest⟩ := at?_cons_cons h
          obtain ⟨inner, hinner⟩ := ih hrest
          -- `at?` reads a last name in another way than the names before it
          refine ⟨inner, ?_⟩
          rw [List.dropLast_cons_cons]
          cases hdrop : (next :: rest).dropLast with
          | nil =>
              rw [hdrop] at hinner
              rw [← hinner]
              exact hget
          | cons first others =>
              rw [hdrop] at hinner
              rw [at?, hget]
              · exact hinner
              · simp

end Folder

namespace Disk

/-- Behind a piece that names nothing there is a folder. -/
theorem at?_of_follow {disk : Disk} {pieces location reached : List String} {piece : String}
    (hpiece : IsStep piece) (h : disk.follow location (pieces ++ [piece]) = .ok reached) :
    ∃ below, disk.at? reached = some (.folder below) := by
  induction pieces generalizing location with
  | nil =>
      rw [List.nil_append, follow] at h
      cases hat : disk.at? location with
      | none => simp [hat] at h
      | some item =>
          cases item with
          | file content => simp [hat] at h
          | folder below =>
              simp only [hat] at h
              -- the last piece goes up from this folder, or stays in it
              by_cases hdots : piece = ".."
              · rw [if_neg (by simp [hdots]), if_pos hdots, follow] at h
                obtain rfl := Except.ok.inj h
                exact Folder.at?_dropLast hat
              · have hstay : (decide (piece = "") || decide (piece = ".")) = true := by
                  rcases hpiece with rfl | rfl | rfl <;> simp at hdots ⊢
                rw [if_pos hstay, follow] at h
                obtain rfl := Except.ok.inj h
                exact ⟨below, hat⟩
  | cons first rest ih =>
      -- an earlier piece only changes the location, unless it is refused
      rw [List.cons_append, follow] at h
      split at h
      · simp at h
      · simp at h
      · split at h
        · exact ih h
        · split at h
          · exact ih h
          · split at h
            · simp at h
            · exact ih h

/-- **A path whose last piece names nothing does not lead to a file.** -/
theorem kind?_ne_file_of_getLast? {disk : Disk} {cwd path piece : String} (hpiece : IsStep piece)
    (h : (piecesFrom cwd path).getLast? = some piece) :
    disk.kind? cwd path ≠ some .file := by
  obtain ⟨front, hfront⟩ := List.getLast?_eq_some_iff.mp h
  intro hfile
  have hlocate : ∀ location, disk.locate cwd path = .ok location →
      ∃ below, disk.at? location = some (.folder below) := by
    intro location hlocation
    unfold locate at hlocation
    split at hlocation
    · simp at hlocation
    · split at hlocation
      · simp at hlocation
      · rw [hfront] at hlocation
        exact at?_of_follow hpiece hlocation
  unfold kind? item at hfile
  cases hl : disk.locate cwd path with
  | error fault => simp [hl] at hfile
  | ok location =>
      obtain ⟨below, hbelow⟩ := hlocate location hl
      simp [hl, hbelow, Item.kind] at hfile

/-- From an absolute path nothing of the current directory is followed. -/
theorem piecesFrom_of_isAbsolute {path : String} (h : Path.isAbsolute path = true)
    (cwd : String) : piecesFrom cwd path = Path.pieces path := by
  rw [piecesFrom, if_pos h]

/-- **A file in a normal folder has a normal path**: what leads to it is a name. -/
theorem isNormal_of_file {disk : Disk} {cwd : String} {anchor : Anchor}
    (ha : anchor ≠ .relative) {names : List String} {name : String}
    (hnames : Path.IsNormal ⟨anchor, names⟩) (hslash : '/' ∉ name.toList)
    (h : disk.kind? cwd (Path.render ⟨anchor, names ++ [name]⟩) = some .file) :
    Path.IsNormal ⟨anchor, names ++ [name]⟩ := by
  have hfolder := (Path.isNormal_iff ha names).mp hnames
  have hstep : ¬ IsStep name := by
    intro hstep
    refine kind?_ne_file_of_getLast? hstep ?_ h
    rw [piecesFrom_of_isAbsolute (Path.isAbsolute_render_of_ne_relative ha _)]
    exact Path.getLast?_pieces_render anchor names hslash
  rw [IsStep, not_or, not_or] at hstep
  obtain ⟨hempty, hdot, hdots⟩ := hstep
  rw [Path.isNormal_iff ha]
  intro other hother
  rcases List.mem_append.mp hother with hother | hother
  · exact hfolder other hother
  · rw [List.mem_singleton.mp hother]
    exact ⟨⟨by simp [Path.isName, hempty, hdot], hslash⟩, hdots⟩

end Disk

end ModuleResolution
