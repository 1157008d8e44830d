import ModuleResolution.Proofs.Disk.Complete
import ModuleResolution.Proofs.Resolve.Installed

/-! # Where a walk looks

A walk for the file of a folder looks in at most three folders, one after another: the one asked
for, the place of the library in its type package, and its place in the next dependency root further
up (`Walk.IsCourse`). It ends at the first of them that exists or holds the file, and comes to what
it finds there; it fails when there is none (`Walk.namedEntry_course`). Between two folders it only
looks for that dependency root.
-/

set_option autoImplicit false

namespace ModuleResolution

namespace Lookup

variable {α : Type} (place : Place)

/-- A lookup that found something asks nothing more. -/
theorem questions_orElse (search : Lookup (Option α)) (other : Unit → Lookup (Option α)) :
    (search.orElse other).questions place = search.questions place ++
      if (search.outcome place).isSome then [] else (other ()).questions place := by
  rw [orElse, questions_bind]
  cases search.outcome place <;> rfl

end Lookup

namespace Walk

variable {rules : Rules} {place : Place} {start : String} {anchor : Anchor}
  {above names course nested : List String} {mayEscalate : Bool}

/-! ## The course of a walk -/

/-- The place of a library in the next dependency root further up, if there is one. -/
inductive IsNested (place : Place) (anchor : Anchor) (above names : List String) :
    List String → Prop where
  | found {front : List String} (h : IsNextRoot place anchor above front) :
    IsNested place anchor above names [inRoot anchor front names]
  | missing (h : ∀ front ≠ [], front <+: above → front ≠ above →
      place.kind? (inRoot anchor front []) = none) : IsNested place anchor above names []

/-- The folders that a walk may look in: the one asked for and, if it may look in others as well and
that one lies below a dependency root, those that can stand for it. -/
inductive IsCourse (place : Place) (start : String) : Bool → List String → Prop where
  | direct : IsCourse place start false [start]
  | outside (h : ∀ anchor above names, ¬ LiesBelow place.cwd start anchor above names) :
    IsCourse place start true [start]
  | types {anchor : Anchor} {above names nested : List String}
    (h : LiesBelow place.cwd start anchor above names)
    (htypes : names.head? = some Layout.typesFolder)
    (hnested : IsNested place anchor above names nested) :
    IsCourse place start true (start :: nested)
  | library {anchor : Anchor} {above names nested : List String}
    (h : LiesBelow place.cwd start anchor above names)
    (hlibrary : names.head? ≠ some Layout.typesFolder)
    (hnested : IsNested place anchor above names nested) :
    IsCourse place start true
      (start :: inRoot anchor above (Layout.typesFolder :: typePackage names) :: nested)

/-- There is at most one next dependency root. -/
theorem IsNextRoot.unique {front other : List String} (h : IsNextRoot place anchor above front)
    (h' : IsNextRoot place anchor above other) : front = other := by
  have hle : ∀ {front other : List String}, IsNextRoot place anchor above front →
      IsNextRoot place anchor above other → front.length ≤ other.length := by
    intro front other h h'
    by_contra hlt
    have hnone := h'.nearest front h.starts h.ne (Nat.lt_of_not_le hlt)
    have hsome := h.present
    rw [hnone] at hsome
    cases hsome
  have hstart : front <+: other := List.prefix_of_prefix_length_le h.starts h'.starts (hle h h')
  exact hstart.eq_of_length (Nat.le_antisymm (hle h h') (hle h' h))

theorem isNested_iff (hcwd : Path.isAbsolute place.cwd = true)
    (h : LiesBelow place.cwd start anchor above names) :
    IsNested place anchor above names nested ↔
      nested = ((nestedRoot place.cwd ⟨inRoot anchor above [], names⟩).outcome place).toList := by
  rcases nestedRoot_cases hcwd h with ⟨hnone, hall⟩ | ⟨front, hfront, hsome⟩
  · rw [hnone, Option.toList_none]
    constructor
    · rintro (hother | -)
      · have hpresent := hother.present
        rw [hall _ hother.ne_nil hother.starts hother.ne] at hpresent
        cases hpresent
      · rfl
    · rintro rfl
      exact .missing hall
  · rw [hsome, Option.toList_some]
    constructor
    · rintro (hother | hall)
      · rw [hfront.unique hother]
      · have hpresent := hfront.present
        rw [hall _ hfront.ne_nil hfront.starts hfront.ne] at hpresent
        cases hpresent
    · rintro rfl
      exact .found hfront

theorem detours_of_liesBelow (h : LiesBelow place.cwd start anchor above names) :
    detours place start = (Installed.sidecar? ⟨inRoot anchor above [], names⟩).toList ++
      ((nestedRoot place.cwd ⟨inRoot anchor above [], names⟩).outcome place).toList := by
  rw [detours, ofPath?_of_liesBelow h]

/-- **The course of a walk** is its stations. -/
theorem isCourse_iff (hcwd : Path.isAbsolute place.cwd = true) :
    IsCourse place start mayEscalate course ↔ course = stations place start mayEscalate := by
  constructor
  -- each way to be a course fixes the detours, of which there are none, one or two
  · rintro (_ | hnot | ⟨h, htypes, hnested⟩ | ⟨h, hlibrary, hnested⟩)
    · rfl
    · have hnone : Installed.ofPath? place.cwd start = none := by
        by_contra hsome
        obtain ⟨installed, hinstalled⟩ := Option.ne_none_iff_exists'.mp hsome
        obtain ⟨anchor, above, names, h⟩ := exists_liesBelow_of_ofPath? hinstalled
        exact hnot anchor above names h
      rw [stations, if_pos rfl, detours, hnone]
    · rw [stations, if_pos rfl, detours_of_liesBelow h, sidecar?_of_liesBelow hcwd h,
        if_pos htypes, (isNested_iff hcwd h).mp hnested, Option.toList_none, List.nil_append]
    · rw [stations, if_pos rfl, detours_of_liesBelow h, sidecar?_of_liesBelow hcwd h,
        if_neg hlibrary, (isNested_iff hcwd h).mp hnested, Option.toList_some, List.singleton_append]
  · rintro rfl
    cases mayEscalate with
    | false => exact .direct
    | true =>
        rw [stations, if_pos rfl]
        -- the detours that are computed are a course, by where the start lies
        cases hinstalled : Installed.ofPath? place.cwd start with
        | none =>
            rw [detours, hinstalled]
            refine .outside fun anchor above names h => ?_
            rw [ofPath?_of_liesBelow h] at hinstalled
            cases hinstalled
        | some installed =>
            obtain ⟨anchor, above, names, h⟩ := exists_liesBelow_of_ofPath? hinstalled
            have hnested := (isNested_iff hcwd h).mpr rfl
            rw [detours_of_liesBelow h, sidecar?_of_liesBelow hcwd h]
            split
            · next htypes =>
                rw [Option.toList_none, List.nil_append]
                exact .types h htypes hnested
            · next hlibrary =>
                rw [Option.toList_some, List.singleton_append]
                exact .library h hlibrary hnested

theorem length_le_of_isCourse (h : IsCourse place start mayEscalate course) :
    course.length ≤ 3 := by
  have hle : ∀ {anchor : Anchor} {above names nested : List String},
      IsNested place anchor above names nested → nested.length ≤ 1 := by
    rintro anchor above names nested (h | h)
    · exact Nat.le_refl 1
    · exact Nat.zero_le 1
  cases h with
  | direct => exact Nat.le_add_left 1 2
  | outside h => exact Nat.le_add_left 1 2
  | types h htypes hnested =>
      have hlength := hle hnested
      rw [List.length_cons]
      omega
  | library h hlibrary hnested =>
      have hlength := hle hnested
      rw [List.length_cons, List.length_cons]
      omega

/-! ## What a walk asks -/

/-- A walk for a target ends at this folder: the target is in it, or the folder exists. -/
def EndsAt (place : Place) (target folder : String) : Prop :=
  (place.kind? (Path.join [folder, target])).isSome = true ∨ (place.kind? folder).isSome = true

instance (place : Place) (target folder : String) : Decidable (EndsAt place target folder) :=
  inferInstanceAs (Decidable (_ ∨ _))

/-- What a visit to a folder asks. -/
def asked (place : Place) (target folder : String) : List Question :=
  .kind (Path.join [folder, target]) ::
    if (place.kind? (Path.join [folder, target])).isSome then []
    else .kind folder :: if (place.kind? folder).isSome then [.shape folder] else []

/-- A question whether there is a dependency root above the one that a path lies below. -/
def AsksAbove (cwd start : String) (question : Question) : Prop :=
  ∃ anchor above names front, LiesBelow cwd start anchor above names ∧
    front ≠ [] ∧ front <+: above ∧ front ≠ above ∧ question = .kind (inRoot anchor front [])

theorem questions_visit (target folder : String) :
    (visit rules target folder).questions place = asked place target folder := by
  rw [visit, Lookup.questions, asked]
  cases place.kind? (Path.join [folder, target]) with
  | some kind => rfl
  | none =>
      rw [Lookup.questions]
      cases place.kind? folder <;> rfl

theorem questions_visitInstead (request : Request) (target : String) (mode : Escalation)
    (folder : Option String) :
    (visitInstead rules request target mode folder).questions place =
      folder.toList.flatMap (asked place target) := by
  cases folder with
  | none => rfl
  | some folder =>
      rw [visitInstead, Lookup.questions, questions_visit]
      simp

theorem visited_isSome_iff {target folder : String} :
    (visited rules place target folder).isSome = true ↔ EndsAt place target folder := by
  unfold visited EndsAt
  split
  · next hdirect => simp [hdirect]
  · next hdirect =>
      split
      · next hfolder => simp [hfolder]
      · next hfolder => simp [hdirect, hfolder]

theorem visited_eq_none_iff {target folder : String} :
    visited rules place target folder = none ↔ ¬ EndsAt place target folder := by
  rw [← visited_isSome_iff, Option.not_isSome_iff_eq_none]

theorem questions_namedEntry (request : Request) (target start : String) (mayEscalate : Bool) :
    (namedEntry rules place.cwd request target start mayEscalate).run.questions place =
      (seek rules place.cwd request target start mayEscalate).questions place := by
  show (((seek rules place.cwd request target start mayEscalate).bind
    fun found => .done (Except.ok found)).bind _).questions place = _
  rw [Lookup.questions_bind, Lookup.questions_bind, Lookup.outcome_bind, Lookup.questions_done,
    List.append_nil, Lookup.outcome_done]
  cases (seek rules place.cwd request target start mayEscalate).outcome place with
  | none => exact List.append_nil _
  | some walk => exact List.append_nil _

/-- What comes before the last of some folders, when at most one is added to them. -/
theorem mem_of_mem_dropLast {seen : List String} {last : Option String} {folder : String}
    (h : folder ∈ (seen ++ last.toList).dropLast) : folder ∈ seen := by
  cases last with
  | none =>
      rw [Option.toList_none, List.append_nil] at h
      exact List.dropLast_subset _ h
  | some other => rwa [Option.toList_some, List.dropLast_concat] at h

/-- **A walk that looks elsewhere** looks in the detours one after another until it ends. The only
thing it asks besides is where the next dependency root is. -/
theorem questions_escalate (hcwd : Path.isAbsolute place.cwd = true) (rules : Rules)
    (request : Request) (target start : String) :
    ∃ seen upward later, seen ++ later <+: detours place start ∧
      (∀ folder ∈ (seen ++ later).dropLast, ¬ EndsAt place target folder) ∧
      (escalate rules place.cwd request target start).questions place =
        seen.flatMap (asked place target) ++ upward ++ later.flatMap (asked place target) ∧
      ∀ question ∈ upward, AsksAbove place.cwd start question := by
  cases hinstalled : Installed.ofPath? place.cwd start with
  | none =>
      rw [escalate, hinstalled]
      exact ⟨[], [], [], List.nil_prefix, by simp, rfl, by simp⟩
  | some installed =>
      obtain ⟨anchor, above, names, h⟩ := exists_liesBelow_of_ofPath? hinstalled
      obtain rfl : ⟨inRoot anchor above [], names⟩ = installed :=
        Option.some.inj ((ofPath?_of_liesBelow h).symm.trans hinstalled)
      have hupward : ∀ question ∈ (nestedRoot place.cwd
          ⟨inRoot anchor above [], names⟩).questions place,
          AsksAbove place.cwd start question := by
        intro question hquestion
        obtain ⟨front, hfront⟩ := mem_questions_nestedRoot hcwd h hquestion
        exact ⟨anchor, above, names, front, h, hfront⟩
      rw [detours_of_liesBelow h, escalate, hinstalled]
      dsimp only
      rw [Lookup.questions_orElse, questions_visitInstead, outcome_visitInstead,
        Lookup.questions_bind, questions_visitInstead]
      cases Installed.sidecar? ⟨inRoot anchor above [], names⟩ with
      | none =>
          refine ⟨[], _, _, List.prefix_rfl, fun folder hfolder => ?_, ?_, hupward⟩
          · exact absurd (mem_of_mem_dropLast hfolder) List.not_mem_nil
          · simp
      | some sidecar =>
          by_cases hends : EndsAt place target sidecar
          · -- the walk ends in the type package
            refine ⟨[sidecar], [], [], List.prefix_append [sidecar] _, by simp, ?_, by simp⟩
            simp [visited_isSome_iff.mpr hends]
          · refine ⟨[sidecar], _, _, List.prefix_rfl, fun folder hfolder => ?_, ?_, hupward⟩
            · rwa [List.mem_singleton.mp (mem_of_mem_dropLast hfolder)]
            · simp [visited_eq_none_iff.mpr hends]

/-- **A walk looks in the folders of its course** one after another until it ends. -/
theorem questions_seek (hcwd : Path.isAbsolute place.cwd = true) (rules : Rules) (request : Request)
    (target start : String) (mayEscalate : Bool) :
    ∃ seen upward later, seen ++ later <+: stations place start mayEscalate ∧
      (∀ folder ∈ (seen ++ later).dropLast, ¬ EndsAt place target folder) ∧
      (seek rules place.cwd request target start mayEscalate).questions place =
        seen.flatMap (asked place target) ++ upward ++ later.flatMap (asked place target) ∧
      ∀ question ∈ upward, AsksAbove place.cwd start question := by
  rw [seek, Lookup.questions_orElse, questions_visit, outcome_visit]
  by_cases hstart : EndsAt place target start
  · -- the walk ends where it starts
    refine ⟨[start], [], [], List.prefix_append [start] _, by simp, ?_, by simp⟩
    simp [visited_isSome_iff.mpr hstart]
  rw [visited_eq_none_iff.mpr hstart]
  cases mayEscalate with
  | false =>
      refine ⟨[start], [], [], List.prefix_rfl, by simp, ?_, by simp⟩
      simp
  | true =>
      obtain ⟨seen, upward, later, hprefix, hbefore, hquestions, hupward⟩ :=
        questions_escalate hcwd rules request target start
      refine ⟨start :: seen, upward, later, ?_, ?_, ?_, hupward⟩
      · rw [stations, if_pos rfl, List.cons_append, List.prefix_cons_inj]
        exact hprefix
      · intro folder hfolder
        rw [List.cons_append] at hfolder
        cases hlast : seen ++ later with
        | nil => simp [hlast] at hfolder
        | cons next rest =>
            rw [hlast, List.dropLast_cons_cons, List.mem_cons] at hfolder
            rcases hfolder with rfl | hfolder
            · exact hstart
            · exact hbefore folder (hlast ▸ hfolder)
      · rw [if_neg (by simp), if_pos rfl, hquestions]
        simp

/-! ## What a walk comes to -/

theorem visited_of_endsAt {target folder : String} (h : EndsAt place target folder) :
    visited rules place target folder =
      some ⟨folder, if (place.kind? (Path.join [folder, target])).isSome then
        some (Path.join [folder, target]) else firstBelow rules place target folder⟩ := by
  unfold visited
  by_cases hdirect : (place.kind? (Path.join [folder, target])).isSome = true
  · rw [if_pos hdirect, if_pos hdirect]
  · rw [if_neg hdirect, if_neg hdirect, if_pos (h.resolve_left hdirect)]

/-- **A walk comes to what it finds in the first folder** of its course where it can end. -/
theorem outcome_namedEntry_of_endsAt {request : Request} {target folder : String}
    {front back : List String} (hsplit : stations place start mayEscalate = front ++ folder :: back)
    (hbefore : ∀ other ∈ front, ¬ EndsAt place target other) (hends : EndsAt place target folder) :
    Search.outcome place (namedEntry rules place.cwd request target start mayEscalate) =
      .ok ⟨folder, if (place.kind? (Path.join [folder, target])).isSome then
        some (Path.join [folder, target]) else firstBelow rules place target folder⟩ := by
  have hnone : front.findSome? (visited rules place target) = none :=
    List.findSome?_eq_none_iff.mpr fun other hother => visited_eq_none_iff.mpr (hbefore other hother)
  rw [outcome_namedEntry, hsplit, List.findSome?_append, hnone, List.findSome?_cons,
    visited_of_endsAt hends]
  rfl

/-- **A file that a walk finds exists**, and it is the target or listed below where the walk ends. -/
theorem isSome_of_namedEntry (hdisk : place.disk.IsLawful) (hnames : place.disk.HasDistinctNames)
    {request : Request} {target file : String} {walk : Walk}
    (h : Search.outcome place (namedEntry rules place.cwd request target start mayEscalate) =
      .ok walk) (hfound : walk.found = some file) :
    (place.kind? file).isSome = true ∧
      (file = Path.join [walk.directory, target] ∨
        file ∈ Listing.paths walk.directory ⟨rules.allowed, rules.excluded⟩ true
          (place.shapeAt walk.directory)) := by
  obtain ⟨-, hvisited⟩ := visited_of_namedEntry h
  rcases found_of_visited rules place hvisited hfound with ⟨htarget, hdirect⟩ | ⟨-, hbelow⟩
  · exact ⟨hdirect, Or.inl htarget⟩
  · have hlisted := List.mem_of_find?_eq_some hbelow
    refine ⟨?_, Or.inr hlisted⟩
    rw [Listing.kind?_of_mem_paths hdisk hnames hlisted]
    rfl

/-- **A walk is a search in at most three folders.** It ends at the first one of its course that
exists or holds the target, and comes to the target in it or else the first file below that stands
for the target; it fails when there is none. A file that it finds exists. It asks for the folders up
to the one where it ends, and besides only for the next dependency root further up. -/
theorem namedEntry_course (hcwd : Path.isAbsolute place.cwd = true) (hdisk : place.disk.IsLawful)
    (hnames : place.disk.HasDistinctNames) (rules : Rules) (request : Request)
    (target start : String) (mayEscalate : Bool) :
    let search := namedEntry rules place.cwd request target start mayEscalate
    ∃ course, IsCourse place start mayEscalate course ∧
      (∀ other, IsCourse place start mayEscalate other → other = course) ∧ course.length ≤ 3 ∧
      (∀ front folder back, course = front ++ folder :: back →
        (∀ other ∈ front, ¬ EndsAt place target other) → EndsAt place target folder →
        Search.outcome place search =
          .ok ⟨folder, if (place.kind? (Path.join [folder, target])).isSome then
            some (Path.join [folder, target]) else firstBelow rules place target folder⟩) ∧
      (Search.outcome place search = .error (.failed ⟨request, .noAncestor target start⟩) ↔
        ∀ folder ∈ course, ¬ EndsAt place target folder) ∧
      (∀ walk file, Search.outcome place search = .ok walk → walk.found = some file →
        (place.kind? file).isSome = true ∧
          (file = Path.join [walk.directory, target] ∨
            file ∈ Listing.paths walk.directory ⟨rules.allowed, rules.excluded⟩ true
              (place.shapeAt walk.directory))) ∧
      ∃ seen upward later, seen ++ later <+: course ∧
        (∀ folder ∈ (seen ++ later).dropLast, ¬ EndsAt place target folder) ∧
        search.run.questions place =
          seen.flatMap (asked place target) ++ upward ++ later.flatMap (asked place target) ∧
        ∀ question ∈ upward, AsksAbove place.cwd start question := by
  intro search
  have hcourse : IsCourse place start mayEscalate (stations place start mayEscalate) :=
    (isCourse_iff hcwd).mpr rfl
  refine ⟨stations place start mayEscalate, hcourse, fun other hother => (isCourse_iff hcwd).mp hother,
    length_le_of_isCourse hcourse, ?_, ?_, fun walk file => isSome_of_namedEntry hdisk hnames, ?_⟩
  · intro front folder back hsplit hbefore hends
    exact outcome_namedEntry_of_endsAt hsplit hbefore hends
  -- the search fails when no visit gives anything, and a visit gives nothing when it does not end
  · rw [outcome_namedEntry]
    cases hfind : (stations place start mayEscalate).findSome? (visited rules place target) with
    | none =>
        refine iff_of_true rfl fun folder hfolder => ?_
        exact visited_eq_none_iff.mp (List.findSome?_eq_none_iff.mp hfind folder hfolder)
    | some walk =>
        refine iff_of_false (fun h => by cases h) fun hall => ?_
        obtain ⟨folder, hfolder, hvisited⟩ := List.exists_of_findSome?_eq_some hfind
        rw [visited_eq_none_iff.mpr (hall folder hfolder)] at hvisited
        cases hvisited
  · rw [questions_namedEntry]
    exact questions_seek hcwd rules request target start mayEscalate

/-- A library that is neither where it is looked for nor in its type package, but further up. -/
theorem namedEntry_course_hoisted :
    let place : Place := ⟨.subfolder "q" (.subfolder "node_modules"
      (.subfolder "a" (.file "package.json" [] .empty) .empty) (.subfolder "p" .empty .empty)) .empty,
      "/q/p"⟩
    let request : Request := ⟨"a", "/q/p"⟩
    let options : Options := {}
    place.disk.IsLawful ∧ place.disk.HasDistinctNames ∧
      IsCourse place "node_modules/a" true
        ["node_modules/a", "/q/p/node_modules/@types/a", "/q/node_modules/a"] ∧
      Search.outcome place
          (namedEntry options.rules "/q/p" request "package.json" "node_modules/a" true) =
        .ok ⟨"/q/node_modules/a", some "/q/node_modules/a/package.json"⟩ := by
  intro place request options
  have hdisk : place.disk.IsLawful := by decide +kernel
  have hnames : place.disk.HasDistinctNames := by decide +kernel
  have hstations : stations place "node_modules/a" true =
      ["node_modules/a", "/q/p/node_modules/@types/a", "/q/node_modules/a"] := by decide +kernel
  obtain ⟨course, hcourse, -, -, hends, -⟩ := @namedEntry_course place (by decide) hdisk hnames
    options.rules request "package.json" "node_modules/a" true
  obtain rfl := ((isCourse_iff (by decide)).mp hcourse).trans hstations
  refine ⟨hdisk, hnames, hcourse, ?_⟩
  refine (hends ["node_modules/a", "/q/p/node_modules/@types/a"] "/q/node_modules/a" [] rfl
    (by decide +kernel) (by decide +kernel)).trans ?_
  decide +kernel

/-- **No dependency root at `/` is looked in**, though a library is there. -/
theorem namedEntry_outermost :
    let place : Place := ⟨.subfolder "node_modules"
      (.subfolder "a" (.file "package.json" [] .empty) .empty)
      (.subfolder "p" (.subfolder "node_modules" .empty .empty) .empty), "/p"⟩
    let request : Request := ⟨"a", "/p"⟩
    let options : Options := {}
    LiesBelow "/p" "/p/node_modules/a" .root ["p"] ["a"] ∧
      place.kind? "/node_modules" = some .folder ∧
      place.kind? "/node_modules/a/package.json" = some .file ∧
      Search.outcome place
          (namedEntry options.rules "/p" request "package.json" "/p/node_modules/a" true) =
        .error (.failed ⟨request, .noAncestor "package.json" "/p/node_modules/a"⟩) := by
  intro place request options
  refine ⟨⟨by decide +kernel, by decide +kernel, by decide⟩, by decide +kernel, by decide +kernel, ?_⟩
  decide +kernel

end Walk

end ModuleResolution
