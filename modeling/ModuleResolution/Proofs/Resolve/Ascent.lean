import Mathlib.Data.List.Infix
import ModuleResolution.Proofs.Resolve.Locate

/-! # Looking upwards

The search for an entry in a folder and those above it goes up one folder at a time
(`Walk.nearest_step`). It comes to a root after as many steps as the folder is deep, looks in each
folder on the way and not in the root, and gives the entry of the first folder that has one
(`Walk.nearest_ancestor`).

So a folder without such an entry can be left out. A library is looked for in the nearest dependency
root, and nothing else of where it is looked for from matters. It is therefore located alike from
two folders of which one lies below the other, as long as there is no dependency root between them
(`Library.locate_from_below`).
-/

set_option autoImplicit false

namespace ModuleResolution

namespace Walk

variable {cwd name folder : String} {place : Place}

/-! ## One folder after another -/

/-- **One step of the search**: it ends at a root, or at a folder that has the entry, and goes on
from the parent of any other folder. -/
theorem nearest_step (h : Path.isAbsolute folder = true) :
    nearest cwd name folder =
      if Path.isRoot folder then .done none
      else .kind (Path.join [folder, name]) fun kind =>
        if kind.isSome then .done (some (Path.join [folder, name]))
        else nearest cwd name (Path.parent folder) := by
  unfold nearest
  rw [places_of_isAbsolute h, places_of_isAbsolute (Path.isAbsolute_parent h), Path.lineage_step h]
  split
  · rfl
  · rw [List.map_cons, Path.join_normalize h]
    rfl

/-- **The whole search**, from a folder that is so many steps below a root: the first of the folders
on the way that has the entry counts, and the ones after it are not asked for. -/
theorem nearest_run {height : Nat} (h : Path.isAbsolute folder = true)
    (hheight : Path.depth folder = height) :
    let candidate := fun steps => Path.join [Path.parent^[steps] folder, name]
    (nearest cwd name folder).outcome place =
        ((List.range height).find? fun steps =>
          (place.kind? (candidate steps)).isSome).map candidate ∧
      (nearest cwd name folder).questions place <+:
        (List.range height).map fun steps => .kind (candidate steps) := by
  intro candidate
  -- by induction on how many steps are left, each of which takes the last name off
  induction height generalizing folder with
  | zero =>
      rw [nearest_step h, if_pos ((Path.isRoot_iff_depth h).mpr hheight)]
      exact ⟨rfl, List.nil_prefix⟩
  | succ height ih =>
      have hroot : ¬ Path.isRoot folder = true := by
        rw [Path.isRoot_iff_depth h, hheight]
        exact Nat.succ_ne_zero height
      have hparent : Path.depth (Path.parent folder) = height := by
        rw [Path.depth_parent h, hheight]
        exact Nat.add_sub_cancel height 1
      obtain ⟨houtcome, hquestions⟩ := ih (Path.isAbsolute_parent h) hparent
      rw [nearest_step h, if_neg hroot, Lookup.outcome, Lookup.questions, List.range_succ_eq_map,
        List.find?_cons, List.map_cons]
      have hfirst : candidate 0 = Path.join [folder, name] := rfl
      rw [hfirst]
      cases (place.kind? (Path.join [folder, name])).isSome with
      | true =>
          rw [if_pos rfl, Lookup.outcome_done, Lookup.questions_done]
          exact ⟨rfl, List.prefix_append [_] _⟩
      | false =>
          -- the steps from the parent are those from the folder, one less each
          have hsteps : ∀ steps, Path.join [Path.parent^[steps] (Path.parent folder), name] =
              candidate (steps + 1) := fun _ => rfl
          simp only [hsteps] at houtcome hquestions
          rw [if_neg Bool.false_ne_true, houtcome, List.find?_map, List.map_map, Option.map_map,
            List.prefix_cons_inj]
          simpa only [Function.comp_def, Nat.succ_eq_add_one, true_and] using hquestions

/-! ## The nearest folder that has the entry -/

/-- The search from a text is that from the absolute path it stands for. -/
theorem nearest_absolute (hcwd : Path.isAbsolute cwd = true) (name start : String) :
    nearest cwd name (Path.absolute cwd start) = nearest cwd name start := by
  have hstart : Path.isAbsolute (Path.absolute cwd start) = true :=
    Path.isAbsolute_absoluteFrom hcwd cwd start
  rw [nearest, places_of_isAbsolute hstart]
  rfl

/-- **The search upwards ends, and finds the nearest entry.** From any start, whether or not there
is such a folder, it passes the folders up to a root, which it comes to after finitely many steps.
It gives the entry in the first of these folders that has one, and nothing only if none of them has
one; the entry of a folder is asked for at most once, and never that of the root. -/
theorem nearest_ancestor (place : Place) (hcwd : Path.isAbsolute place.cwd = true)
    (name start : String) :
    let folder := fun steps => Path.parent^[steps] (Path.absolute place.cwd start)
    let candidate := fun steps => Path.join [folder steps, name]
    let height := Path.depth (Path.absolute place.cwd start)
    let search := nearest place.cwd name start
    (∀ steps, Path.isRoot (folder steps) = true ↔ height ≤ steps) ∧
      (∀ path, search.outcome place = some path ↔ ∃ steps < height,
        (place.kind? (candidate steps)).isSome = true ∧
        (∀ fewer < steps, place.kind? (candidate fewer) = none) ∧ candidate steps = path) ∧
      (search.outcome place = none ↔ ∀ steps < height, place.kind? (candidate steps) = none) ∧
      search.questions place <+: (List.range height).map fun steps => .kind (candidate steps) := by
  intro folder candidate height search
  have hstart : Path.isAbsolute (Path.absolute place.cwd start) = true :=
    Path.isAbsolute_absoluteFrom hcwd place.cwd start
  -- the run is a search through the folders by their number of steps, so the least one wins
  obtain ⟨houtcome, hquestions⟩ := @nearest_run place.cwd name _ place height hstart rfl
  rw [nearest_absolute hcwd] at houtcome hquestions
  refine ⟨Path.isRoot_iterate_parent hstart, fun path => ?_, ?_, hquestions⟩
  · rw [houtcome, Option.map_eq_some_iff]
    constructor
    · rintro ⟨steps, hfind, hpath⟩
      obtain ⟨hsome, hsteps, hnone⟩ := List.find?_range_eq_some.mp hfind
      refine ⟨steps, List.mem_range.mp hsteps, hsome, fun fewer hfewer => ?_, hpath⟩
      simpa using hnone fewer hfewer
    · rintro ⟨steps, hsteps, hsome, hnone, hpath⟩
      refine ⟨steps, List.find?_range_eq_some.mpr ⟨hsome, List.mem_range.mpr hsteps, ?_⟩, hpath⟩
      intro fewer hfewer
      rw [hnone fewer hfewer]
      rfl
  · rw [houtcome, Option.map_eq_none_iff, List.find?_range_eq_none]
    simp [candidate, folder]

/-- A search from a folder that does not exist; one from above the root, where the entry in the root
is not found; and one that keeps the two slashes it starts with. -/
theorem nearest_ancestor_missing :
    let place : Place := ⟨.subfolder "node_modules" .empty (.subfolder "q"
      (.subfolder "node_modules" .empty (.subfolder "p" .empty .empty)) .empty), "/q/p"⟩
    (nearest place.cwd "node_modules" "../r//s").outcome place = some "/q/node_modules" ∧
      (nearest place.cwd "node_modules" "../../..").outcome place = none ∧
      (nearest place.cwd "node_modules" "//q").outcome place = some "//q/node_modules" ∧
      place.kind? "/node_modules" = some .folder := by
  intro place
  have hcwd : Path.isAbsolute place.cwd = true := by decide
  obtain ⟨-, hmissing, -⟩ := nearest_ancestor place hcwd "node_modules" "../r//s"
  obtain ⟨-, -, habove, -⟩ := nearest_ancestor place hcwd "node_modules" "../../.."
  obtain ⟨-, hdouble, -⟩ := nearest_ancestor place hcwd "node_modules" "//q"
  refine ⟨(hmissing _).mpr ⟨2, ?_⟩, habove.mpr ?_, (hdouble _).mpr ⟨0, ?_⟩, ?_⟩
  all_goals decide +kernel

/-! ## Folders that are passed -/

/-- A folder without the entry can be left out for the one above it. -/
theorem outcome_nearest_append {last : String} (hfolder : Path.isAbsolute folder = true)
    (hlast : Path.IsLegible last) (hdots : last ≠ "..")
    (hnone : place.kind? (Path.join [Path.append folder last, name]) = none) :
    (nearest cwd name (Path.append folder last)).outcome place =
      (nearest cwd name folder).outcome place := by
  have hbelow : Path.isAbsolute (Path.append folder last) = true :=
    Path.isAbsolute_append hfolder last
  have hroot : ¬ Path.isRoot (Path.append folder last) = true := by
    rw [Path.isRoot_iff_depth hbelow, Path.depth, Path.read_append_name folder hlast hdots]
    simp
  have hparent : nearest cwd name (Path.parent (Path.append folder last)) =
      nearest cwd name folder := by
    have hnormal : Path.isAbsolute (Path.normalize folder) = true :=
      (Path.isAbsolute_normalize folder).trans hfolder
    rw [Path.parent_append hfolder hlast hdots, nearest, nearest, places_of_isAbsolute hnormal,
      places_of_isAbsolute hfolder, Path.lineage_normalize]
  rw [nearest_step hbelow, if_neg hroot, Lookup.outcome, hnone, Option.isSome_none,
    if_neg Bool.false_ne_true, hparent]

/-- **Folders without the entry can be left out**: the search from below them comes to what the
search from above them comes to. -/
theorem outcome_nearest_pathOf {names : List String} (hfolder : Path.isAbsolute folder = true)
    (hnames : ∀ last ∈ names, Path.IsLegible last ∧ last ≠ "..")
    (hnone : ∀ front ≠ [], front <+: names →
      place.kind? (Path.join [Listing.pathOf folder front, name]) = none) :
    (nearest cwd name (Listing.pathOf folder names)).outcome place =
      (nearest cwd name folder).outcome place := by
  induction names generalizing folder with
  | nil => rfl
  | cons last rest ih =>
      -- the folder next to the one above is left out last
      obtain ⟨hlegible, hdots⟩ := hnames last List.mem_cons_self
      have hrest : ∀ front ≠ [], front <+: rest →
          place.kind? (Path.join [Listing.pathOf (Path.append folder last) front, name]) = none :=
        fun front _ hfront => hnone (last :: front) (List.cons_ne_nil _ _)
          ((List.prefix_cons_inj last).mpr hfront)
      have hfirst : place.kind? (Path.join [Path.append folder last, name]) = none :=
        hnone [last] (List.cons_ne_nil _ _) (List.prefix_append [last] rest)
      calc (nearest cwd name (Listing.pathOf folder (last :: rest))).outcome place
          = (nearest cwd name (Path.append folder last)).outcome place :=
            ih (Path.isAbsolute_append hfolder last)
              (fun other hother => hnames other (List.mem_cons_of_mem _ hother)) hrest
        _ = (nearest cwd name folder).outcome place :=
            outcome_nearest_append hfolder hlegible hdots hfirst

end Walk

namespace Library

variable {place : Place} {request : Request} {name first second : String}

/-- **Where a library is looked for from** matters by the nearest dependency root only, as long as
its name does not lead through one itself. -/
theorem outcome_directory_congr (hname : Layout.dependencyRoot ∉ Path.segments name)
    (h : (Walk.nearest place.cwd Layout.dependencyRoot first).outcome place =
      (Walk.nearest place.cwd Layout.dependencyRoot second).outcome place) :
    Search.outcome place (directory place.cwd request name first) =
      Search.outcome place (directory place.cwd request name second) := by
  unfold directory
  dsimp only
  split
  · rfl
  · rw [if_neg (by simpa using hname), if_neg (by simpa using hname), Search.outcome_bind,
      Search.outcome_bind, Search.outcome_lift, Search.outcome_lift, h]

/-- **A library is located alike from below**: from an absolute folder, and from any path that leads
further down from there, as long as no folder on the way down has a dependency root. The paths that
are given are the same, and so are the failures. -/
theorem locate_from_below (rules : Rules) (place : Place) (request : Request)
    (name folder : String) (names : List String)
    (hname : Layout.dependencyRoot ∉ Path.segments name)
    (hfolder : Path.isAbsolute folder = true)
    (hnames : ∀ last ∈ names, Path.IsLegible last ∧ last ≠ "..")
    (hnone : ∀ front ≠ [], front <+: names →
      place.kind? (Path.join [Listing.pathOf folder front, Layout.dependencyRoot]) = none) :
    Search.outcome place (locate rules place.cwd request name (Listing.pathOf folder names)) =
      Search.outcome place (locate rules place.cwd request name folder) := by
  have hnearest : (Walk.nearest place.cwd Layout.dependencyRoot
        (Listing.pathOf folder names)).outcome place =
      (Walk.nearest place.cwd Layout.dependencyRoot folder).outcome place :=
    Walk.outcome_nearest_pathOf hfolder hnames hnone
  rw [outcome_locate, outcome_locate, outcome_directory_congr hname hnearest]

/-- From a folder that does not exist, two below the one with the dependency root: a library that
is there, and one that is not. -/
theorem locate_from_below_missing :
    let place : Place := ⟨.subfolder "q" (.subfolder "p" (.subfolder "lib" .empty
      (.subfolder "node_modules" (.subfolder "a" (.file "index.js" [] .empty) .empty) .empty))
      .empty) .empty, "/"⟩
    let request : Request := ⟨"a", "/q"⟩
    let rules := ({} : Options).rules
    let below := "/q/p/lib/absent"
    Search.outcome place (locate rules place.cwd request "a" below) =
        .ok "/q/p/node_modules/a/index.js" ∧
      Search.outcome place (locate rules place.cwd request "b" below) =
        Search.outcome place (locate rules place.cwd request "b" "/q/p") ∧
      place.kind? below = none := by
  intro place request rules below
  have hnone : ∀ front ∈ ["lib", "absent"].inits, front ≠ [] →
      place.kind? (Path.join [Listing.pathOf "/q/p" front, Layout.dependencyRoot]) = none := by
    decide +kernel
  have hbelow : ∀ name, Layout.dependencyRoot ∉ Path.segments name →
      Search.outcome place (locate rules place.cwd request name below) =
        Search.outcome place (locate rules place.cwd request name "/q/p") := fun name hname =>
    locate_from_below rules place request name "/q/p" ["lib", "absent"] hname (by decide)
      (by decide +kernel) fun front hne hfront => hnone front ((List.mem_inits _ _).mpr hfront) hne
  refine ⟨(hbelow "a" (by decide +kernel)).trans ?_, hbelow "b" (by decide +kernel), ?_⟩
  all_goals decide +kernel

end Library

end ModuleResolution
