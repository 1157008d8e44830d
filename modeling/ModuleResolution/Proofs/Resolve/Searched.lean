import Mathlib.Data.List.Find
import ModuleResolution.Proofs.Resolve.Stations

/-! # Which file below a folder is found

A walk that ends at a folder without its target in it takes the first file that is listed below and
that is sought for the target: the target itself when its extension is recognized, and else the
target with one of the extensions behind it that may be matched (`Walk.IsSought`). Nothing is found
only if no listed file is sought (`Walk.namedEntry_sought`).

A suffix that is no recognized extension is in the way of that. A walk takes a target with any
extension for a whole file name, which no listed file has, so it finds nothing for it, though a file
be there that is sought (`Walk.namedEntry_of_suffix`).
-/

set_option autoImplicit false

namespace ModuleResolution.Walk

variable {rules : Rules} {place : Place} {target folder : String}

/-- A file of this name is sought for a target. -/
def IsSought (rules : Rules) (target name : String) : Prop :=
  if rules.hasRecognized target = true then name = target
  else ∃ extension ∈ rules.probeOrder, name = target ++ extension

instance (rules : Rules) (target name : String) : Decidable (IsSought rules target name) :=
  inferInstanceAs (Decidable (ite ..))

/-! ## The names of a target -/

/-- Unless it has a suffix that is no recognized extension, a target stands for the files that are
sought for it. -/
theorem contains_targetNames_iff (h : rules.hasUnrecognized target = false) (name : String) :
    (targetNames rules target).contains name = true ↔ IsSought rules target name := by
  unfold targetNames IsSought
  by_cases hextension : Path.extension target = ""
  · have hrecognized : ¬ rules.hasRecognized target = true := by simp [Rules.hasRecognized, hextension]
    rw [if_neg (by simp [hextension]), if_neg hrecognized]
    simp [eq_comm]
  · have hrecognized : rules.hasRecognized target = true := by
      simpa [Rules.hasRecognized, Rules.hasUnrecognized, hextension] using h
    rw [if_pos (by simp [hextension]), if_pos hrecognized]
    simp

/-- A target with such a suffix only stands for itself. -/
theorem contains_targetNames_of_hasUnrecognized (h : rules.hasUnrecognized target = true)
    (name : String) : (targetNames rules target).contains name = true ↔ name = target := by
  rw [Rules.hasUnrecognized, Bool.and_eq_true] at h
  rw [targetNames, if_pos h.1]
  simp

/-! ## The search below a folder -/

/-- The locations of the files that are listed below a folder. -/
def listed (rules : Rules) (place : Place) (folder : String) : List (List String) :=
  (place.shapeAt folder).walk (Filter.admits ⟨rules.allowed, rules.excluded⟩)

/-- On a lawful disk the file name of a listed path is the last name of its location. -/
theorem fileName_of_mem_listed (hdisk : place.disk.IsLawful) {location : List String}
    (h : location ∈ listed rules place folder) :
    Path.fileName (Listing.pathOf folder location) = location.getLastD "" := by
  have hne : location ≠ [] := Folder.ne_nil_of_mem_walk h
  obtain ⟨front, name, rfl⟩ : ∃ front name, location = front ++ [name] :=
    ⟨location.dropLast, location.getLast hne, (List.dropLast_concat_getLast hne).symm⟩
  obtain ⟨hlegible, hdots, -⟩ : IsEntryName name :=
    (Disk.AllNames.shapeAt hdisk place.cwd folder).walk h (by simp)
  rw [List.getLastD_concat]
  rw [Listing.pathOf_concat, Path.fileName_append _ hlegible hdots]

/-- **The search below a folder** is one for a file by its last name, among those that are listed. -/
theorem firstBelow_eq (hdisk : place.disk.IsLawful) (rules : Rules) (target folder : String) :
    firstBelow rules place target folder =
      ((listed rules place folder).find? fun location =>
        (targetNames rules target).contains (location.getLastD "")).map
          (Listing.pathOf folder) := by
  show ((listed rules place folder).map (Listing.pathOf folder)).find? _ = _
  rw [List.find?_map]
  refine congrArg (Option.map _) (List.find?_congr fun location hlocation => ?_)
  rw [Function.comp_apply, fileName_of_mem_listed hdisk hlocation]

/-- **Unless the target has such a suffix** the first listed file that is sought is found. -/
theorem firstBelow_eq_sought (hdisk : place.disk.IsLawful)
    (h : rules.hasUnrecognized target = false) (folder : String) :
    firstBelow rules place target folder =
      ((listed rules place folder).find? fun location =>
        IsSought rules target (location.getLastD "")).map (Listing.pathOf folder) := by
  rw [firstBelow_eq hdisk]
  refine congrArg (Option.map _) (List.find?_congr fun location _ => ?_)
  rw [Bool.eq_iff_iff, contains_targetNames_iff h, decide_eq_true_iff]

/-- **With such a suffix** nothing is found, since no file of that name is listed. -/
theorem firstBelow_of_hasUnrecognized (hdisk : place.disk.IsLawful)
    (hnames : place.disk.HasDistinctNames) (h : rules.hasUnrecognized target = true)
    (folder : String) : firstBelow rules place target folder = none := by
  rw [firstBelow_eq hdisk, Option.map_eq_none_iff, List.find?_eq_none]
  -- what is listed under the name of the target would make its extension a recognized one
  intro location hlocation hname
  rw [contains_targetNames_of_hasUnrecognized h] at hname
  obtain ⟨-, -, -, -, hallowed, hexcluded⟩ :=
    ((Listing.isListing_walk hdisk hnames folder ⟨rules.allowed, rules.excluded⟩).mem_iff
      location).mp hlocation
  rw [hname] at hallowed hexcluded
  have hrecognized : rules.isRecognized (Path.extension target) = true :=
    Rules.isRecognized_iff.mpr ⟨hallowed, hexcluded⟩
  rw [Rules.hasUnrecognized, hrecognized] at h
  simp at h

/-- **The file that a walk finds below a folder** where it ends without its target: the first file
that is listed there and sought, and none only if there is no such file. With a suffix that is no
recognized extension the target is never found, whatever is below. -/
theorem namedEntry_sought (hcwd : Path.isAbsolute place.cwd = true) (hdisk : place.disk.IsLawful)
    (hnames : place.disk.HasDistinctNames) (rules : Rules) (request : Request)
    (target start folder : String) (mayEscalate : Bool) (front back : List String)
    (hcourse : IsCourse place start mayEscalate (front ++ folder :: back))
    (hbefore : ∀ other ∈ front, ¬ EndsAt place target other)
    (hfolder : (place.kind? folder).isSome = true)
    (hdirect : place.kind? (Path.join [folder, target]) = none) :
    ∃ locations, Listing.IsListing place folder ⟨rules.allowed, rules.excluded⟩ locations ∧
      ∃ found, Search.outcome place
          (namedEntry rules place.cwd request target start mayEscalate) = .ok ⟨folder, found⟩ ∧
        (rules.hasUnrecognized target = false →
          found = (locations.find? fun location =>
            IsSought rules target (location.getLastD "")).map (Listing.pathOf folder) ∧
          (found = none ↔
            ∀ location ∈ locations, ¬ IsSought rules target (location.getLastD ""))) ∧
        (rules.hasUnrecognized target = true → found = none) := by
  refine ⟨listed rules place folder, Listing.isListing_walk hdisk hnames folder _,
    firstBelow rules place target folder, ?_, fun hsuffix => ?_, fun hsuffix => ?_⟩
  · have hstations : front ++ folder :: back = stations place start mayEscalate :=
      (isCourse_iff hcwd).mp hcourse
    rw [outcome_namedEntry_of_endsAt hstations.symm hbefore (Or.inr hfolder), hdirect,
      if_neg (by simp)]
  · rw [firstBelow_eq_sought hdisk hsuffix, Option.map_eq_none_iff, List.find?_eq_none]
    simp only [decide_eq_true_eq, true_and]
  · exact firstBelow_of_hasUnrecognized hdisk hnames hsuffix folder

/-- A search below the type package of a library that is missing, for a target without extension. -/
theorem namedEntry_sought_types :
    let place : Place := ⟨.subfolder "p" (.subfolder "node_modules" (.subfolder "@types"
      (.subfolder "a" (.file "config.css" [] (.file "index.js" [] (.subfolder "lib"
        (.file "config.tsx" [] .empty) .empty))) .empty) .empty) .empty) .empty, "/p"⟩
    let rules := ({} : Options).rules
    let folder := "/p/node_modules/@types/a"
    let search := namedEntry rules "/p" ⟨"a", "/p"⟩ "config" "/p/node_modules/a" true
    search.outcome place = .ok ⟨folder, some "/p/node_modules/@types/a/lib/config.tsx"⟩ ∧
      ∃ locations, Listing.IsListing place folder ⟨rules.allowed, rules.excluded⟩ locations ∧
        (locations.find? fun location =>
          IsSought rules "config" (location.getLastD "")).map (Listing.pathOf folder) =
            some "/p/node_modules/@types/a/lib/config.tsx" := by
  intro place rules folder search
  have hcourse : IsCourse place "/p/node_modules/a" true (["/p/node_modules/a"] ++ folder :: []) :=
    (isCourse_iff (by decide)).mpr (by decide +kernel)
  have houtcome : search.outcome place =
      .ok ⟨folder, some "/p/node_modules/@types/a/lib/config.tsx"⟩ := by decide +kernel
  obtain ⟨locations, hlisting, found, hfound, hsought, -⟩ := namedEntry_sought (by decide)
    (by decide +kernel) (by decide +kernel) rules ⟨"a", "/p"⟩ "config" "/p/node_modules/a" folder
    true _ _ hcourse (by decide +kernel) (by decide +kernel) (by decide +kernel)
  cases hfound.symm.trans houtcome
  exact ⟨houtcome, locations, hlisting, (hsought (by decide +kernel)).1.symm⟩

/-- **A suffix that is no extension is in the way**: the one file that is listed is sought for the
target, and yet it is not found. -/
theorem namedEntry_of_suffix :
    let place := Place.alone "config.model.ts"
    let rules := ({} : Options).rules
    Listing.paths "/p" ⟨rules.allowed, rules.excluded⟩ true (place.shapeAt "/p") =
        ["/p/config.model.ts"] ∧
      IsSought rules "config.model" "config.model.ts" ∧
      Search.outcome place (namedEntry rules "/p" ⟨"a", "/p"⟩ "config.model" "/p" true) =
        .ok ⟨"/p", none⟩ := by
  decide +kernel

end ModuleResolution.Walk
