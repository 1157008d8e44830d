import ModuleResolution.Proofs.Resolve.Retry

/-! # What a resolution reads

Of all that is on a disk a resolution sees where there are files and folders, what is listed below
a folder, and the text of a manifest that a walk found, and all its notes are for debugging. This is
said of a lookup by `Lookup.Reads`, for some property of the paths whose texts it reads, and for
another place that lists the same files. The predicate goes from a lookup and what follows on its
outcome to both (`Reads.bind`), so it holds of each search because it holds of its parts, up to
locating a library (`Library.reads_locate`). Three things come of it: the texts that are read are at
such paths (`Reads.of_mem_questions`), the notes are for debugging (`Reads.level_of_mem_notes`), and
at another place that answers such questions in the same way the lookup comes to the same
(`Reads.outcome_eq`).
-/

set_option autoImplicit false

namespace ModuleResolution

/-- Below each folder the same files are listed at both places. -/
def Place.ListsAs (place other : Place) : Prop :=
  ∀ directory filter, Listing.paths directory filter true (place.shapeAt directory) =
    Listing.paths directory filter true (other.shapeAt directory)

namespace Lookup

/-- At a place a lookup reads texts at paths with some property only, its notes are for debugging,
and from the shape of a folder it goes on as from the shape of that folder at another place. -/
inductive Reads (p : String → Prop) (place other : Place) {α : Type} : Lookup α → Prop
  | done (value : α) : Reads p place other (.done value)
  | note {line : Note} {rest : Lookup α} (hlevel : line.level = .debug)
      (h : Reads p place other rest) : Reads p place other (.note line rest)
  | kind {path : String} {next : Option Kind → Lookup α}
      (h : Reads p place other (next (place.kind? path))) : Reads p place other (.kind path next)
  | text {path : String} {next : Except ReadFailure String → Lookup α} (hpath : p path)
      (h : Reads p place other (next (place.readText path))) : Reads p place other (.text path next)
  | shape {path : String} {next : Folder Unit → Lookup α}
      (hsame : next (place.shapeAt path) = next (other.shapeAt path))
      (h : Reads p place other (next (place.shapeAt path))) : Reads p place other (.shape path next)

variable {α β : Type} {p : String → Prop} {place other : Place}

/-- A lookup and what follows on its outcome. -/
theorem Reads.bind {x : Lookup α} {f : α → Lookup β} (hx : x.Reads p place other)
    (hf : (f (x.outcome place)).Reads p place other) : (x.bind f).Reads p place other := by
  induction hx with
  | done value => exact hf
  | note hlevel _ ih => exact .note hlevel (ih hf)
  | kind _ ih => exact .kind (ih hf)
  | text hpath _ ih => exact .text hpath (ih hf)
  | shape hsame _ ih => exact .shape (congrArg (Lookup.bind · f) hsame) (ih hf)

/-- **A text that is read** is at a path with the property. -/
theorem Reads.of_mem_questions {x : Lookup α} (h : x.Reads p place other) {path : String}
    (hread : .text path ∈ x.questions place) : p path := by
  induction h with
  | done value => cases hread
  | note _ _ ih => exact ih hread
  | kind _ ih =>
      rcases List.mem_cons.mp hread with heq | hrest
      · cases heq
      · exact ih hrest
  | text hpath _ ih =>
      rcases List.mem_cons.mp hread with heq | hrest
      · cases heq
        exact hpath
      · exact ih hrest
  | shape hsame _ ih =>
      rcases List.mem_cons.mp hread with heq | hrest
      · cases heq
      · exact ih hrest

theorem Reads.level_of_mem_notes {x : Lookup α} (h : x.Reads p place other) {note : Note}
    (hnote : note ∈ x.notes place) : note.level = .debug := by
  induction h with
  | done value => cases hnote
  | note hlevel _ ih =>
      rcases List.mem_cons.mp hnote with rfl | hrest
      · exact hlevel
      · exact ih hrest
  | kind _ ih => exact ih hnote
  | text _ _ ih => exact ih hnote
  | shape _ _ ih => exact ih hnote

/-- **Where the questions have the same answers** a lookup comes to the same. -/
theorem Reads.outcome_eq {x : Lookup α} (h : x.Reads p place other)
    (hkinds : ∀ path, place.kind? path = other.kind? path)
    (htexts : ∀ path, p path → place.readText path = other.readText path) :
    x.outcome place = x.outcome other := by
  induction h with
  | done value => rfl
  | note _ _ ih => exact ih
  | kind _ ih => rwa [outcome, outcome, ← hkinds]
  | text hpath _ ih => rwa [outcome, outcome, ← htexts _ hpath]
  | shape hsame _ ih => rwa [outcome, outcome, ← hsame]

theorem reads_first (test : Option Kind → Bool) (paths : List String) :
    (first test paths).Reads p place other := by
  induction paths with
  | nil => exact .done none
  | cons path rest ih =>
      refine .kind ?_
      split
      · exact .done _
      · exact ih

theorem Reads.orElse {search : Lookup (Option α)} {next : Unit → Lookup (Option α)}
    (hsearch : search.Reads p place other) (hnext : (next ()).Reads p place other) :
    (search.orElse next).Reads p place other := by
  refine hsearch.bind ?_
  cases search.outcome place with
  | some found => exact .done _
  | none => exact hnext

end Lookup

open Lookup

variable {p : String → Prop} {place other : Place}

/-! ## Searches that read no text -/

namespace Rules

variable (rules : Rules)

theorem reads_noting {note : String → Note} {search : Lookup (Option String)}
    (hlevel : ∀ found, (note found).level = .debug) (h : search.Reads p place other) :
    (noting note search).Reads p place other := by
  refine h.bind ?_
  cases search.outcome place with
  | some found => exact .note (hlevel found) (.done _)
  | none => exact .done _

theorem reads_onlyIf {search : Lookup (Option String)} (h : search.Reads p place other)
    (condition : Bool) : (onlyIf condition search).Reads p place other := by
  cases condition with
  | false => exact .done _
  | true => exact h

theorem reads_firstMatch (stem : String) : (rules.firstMatch stem).Reads p place other :=
  reads_first _ _

theorem reads_indexMatch (folder : String) : (rules.indexMatch folder).Reads p place other :=
  reads_first _ _

theorem reads_exactMatch (path : String) : (rules.exactMatch path).Reads p place other := by
  unfold exactMatch
  split
  · exact .done _
  · exact reads_first _ _

theorem reads_probeFile (path : String) : (rules.probeFile path).Reads p place other := by
  have hcleared : (rules.clearedMatch path).Reads p place other := reads_firstMatch rules _
  refine (reads_exactMatch rules path).orElse ?_
  refine (reads_onlyIf (reads_noting (fun _ => rfl) hcleared) _).orElse ?_
  refine (reads_firstMatch rules path).orElse ?_
  refine (reads_onlyIf (reads_noting (fun _ => rfl) hcleared) _).orElse ?_
  exact reads_noting (fun _ => rfl) (reads_indexMatch rules path)

end Rules

namespace Walk

variable (rules : Rules)

theorem reads_nearest (cwd name start : String) : (nearest cwd name start).Reads p place other :=
  reads_first _ _

theorem reads_searchBelow (hlists : place.ListsAs other) (target directory : String) :
    (searchBelow rules target directory).Reads p place other := by
  have hfiles : (Listing.files directory ⟨rules.allowed, rules.excluded⟩ true).Reads
      p place other := by
    refine .shape ?_ (.note rfl (.done _))
    dsimp only
    rw [hlists directory]
  exact hfiles.bind (.done _)

theorem reads_visit (hlists : place.ListsAs other) (target directory : String) :
    (visit rules target directory).Reads p place other := by
  refine .kind ?_
  split
  · exact .done _
  · refine .kind ?_
    split
    · exact .done _
    · exact (reads_searchBelow rules hlists target directory).bind (.done _)

theorem reads_nestedRoot (cwd : String) (installed : Installed) :
    (nestedRoot cwd installed).Reads p place other := by
  unfold nestedRoot
  dsimp only
  split
  · exact .done _
  · exact (reads_nearest _ _ _).bind (.done _)

theorem reads_visitInstead (hlists : place.ListsAs other) (request : Request) (target : String)
    (mode : Escalation) (directory : Option String) :
    (visitInstead rules request target mode directory).Reads p place other := by
  cases directory with
  | none => exact .done _
  | some directory => exact .note rfl (reads_visit rules hlists target directory)

theorem reads_seek (hlists : place.ListsAs other) (cwd : String) (request : Request)
    (target start : String) (mayEscalate : Bool) :
    (seek rules cwd request target start mayEscalate).Reads p place other := by
  refine (reads_visit rules hlists target start).orElse ?_
  cases mayEscalate with
  | false => exact .done _
  | true =>
      rw [if_pos rfl, escalate]
      split
      · exact .done _
      · refine (reads_visitInstead rules hlists request target _ _).orElse ?_
        exact (reads_nestedRoot _ _).bind (reads_visitInstead rules hlists request target _ _)

end Walk

/-! ## Searches that read a manifest -/

namespace Search

variable {α β : Type}

/-- The same of a search. -/
def Reads (p : String → Prop) (place other : Place) (search : Search α) : Prop :=
  search.run.Reads p place other

theorem reads_pure (value : α) : Reads p place other (pure value : Search α) := .done _

theorem reads_throw (stop : Stop) : Reads p place other (throw stop : Search α) := .done _

theorem reads_fail (request : Request) (cause : Cause) :
    Reads p place other (fail request cause : Search α) :=
  reads_throw _

theorem reads_lift {lookup : Lookup α} (h : lookup.Reads p place other) :
    Reads p place other (liftM lookup : Search α) :=
  Lookup.Reads.bind h (.done _)

/-- A search and what follows on the value that it gives, if it gives one. -/
theorem Reads.bind {search : Search α} {next : α → Search β} (h : Reads p place other search)
    (hnext : ∀ value, outcome place search = .ok value → Reads p place other (next value)) :
    Reads p place other (search >>= next) := by
  refine Lookup.Reads.bind (x := search.run) h ?_
  cases houtcome : search.run.outcome place with
  | error stop => exact .done _
  | ok value => exact hnext value houtcome

end Search

open Search (reads_pure reads_throw reads_fail reads_lift)

theorem Walk.reads_namedEntry (rules : Rules) (hlists : place.ListsAs other) (cwd : String)
    (request : Request) (target start : String) (mayEscalate : Bool) :
    Search.Reads p place other (namedEntry rules cwd request target start mayEscalate) := by
  refine (reads_lift (reads_seek rules hlists cwd request target start mayEscalate)).bind ?_
  intro found _
  cases found with
  | some walk => exact reads_pure _
  | none => exact reads_fail _ _

namespace Manifest

/-- Loading a manifest reads the text at its path. -/
theorem reads_load {path : String} (hpath : p path) (request : Request) :
    Search.Reads p place other (load request path) := by
  refine (reads_lift (.text hpath (.done _))).bind fun answer _ => ?_
  split
  · exact reads_throw _
  · exact reads_fail _ _
  · split
    · exact reads_pure _
    · exact reads_fail _ _
    · exact reads_throw _

theorem reads_entryPath {path : String} (hpath : p path) (rules : Rules) (request : Request) :
    Search.Reads p place other (entryPath rules request path) := by
  refine (reads_load hpath request).bind fun entries _ => ?_
  have hselect : (selectEntry rules entries).Reads p place other := by
    unfold selectEntry
    split
    · exact .note rfl (.done _)
    · exact .done _
  exact (reads_lift hselect).bind fun entry _ => reads_pure _

end Manifest

namespace Library

variable (rules : Rules)

theorem reads_directory (cwd : String) (request : Request) (name start : String) :
    Search.Reads p place other (directory cwd request name start) := by
  unfold directory
  dsimp only
  split
  · exact reads_fail _ _
  · split
    · exact reads_pure _
    · refine (reads_lift (Walk.reads_nearest _ _ _)).bind fun found _ => ?_
      cases found with
      | some root => exact reads_pure _
      | none => exact reads_fail _ _

theorem reads_script (name folder : String) : (script rules name folder).Reads p place other := by
  refine (Rules.reads_noting (fun _ => rfl) (Rules.reads_firstMatch rules folder)).orElse (.kind ?_)
  split
  · exact Rules.reads_probeFile rules folder
  · exact .done _

theorem reads_entryFile {manifest : String} (hmanifest : p manifest) (request : Request)
    (folder : String) : Search.Reads p place other (entryFile rules request manifest folder) := by
  refine (Manifest.reads_entryPath hmanifest rules request).bind fun entry _ => ?_
  split
  · exact reads_pure _
  · have hmatch : (entryMatch rules entry folder).Reads p place other := by
      refine (Rules.reads_firstMatch rules entry).orElse ?_
      exact (Rules.reads_indexMatch rules entry).orElse (Rules.reads_indexMatch rules folder)
    refine (reads_lift hmatch).bind fun found _ => ?_
    cases found with
    | some path => exact reads_pure _
    | none => exact reads_fail _ _

theorem reads_fileOfWalk {walk : Walk}
    (hfound : ∀ manifest, walk.found = some manifest → p manifest)
    (request : Request) (name : String) :
    Search.Reads p place other (fileOfWalk rules request name walk) := by
  unfold fileOfWalk
  split
  · next manifest hmanifest => exact reads_entryFile rules (hfound manifest hmanifest) request _
  · refine (reads_lift (Rules.reads_noting (fun _ => rfl) (Rules.reads_indexMatch rules _))).bind
      fun found _ => ?_
    cases found with
    | some path => exact reads_pure _
    | none => exact reads_fail _ _

/-- **Locating a library reads the manifest that its walk finds**, and no other text. -/
theorem reads_locate (hlists : place.ListsAs other) {request : Request} {name start : String}
    (hfound : ∀ folder walk manifest,
      Search.outcome place (directory place.cwd request name start) = .ok folder →
      Search.outcome place (Walk.namedEntry rules place.cwd request Layout.manifest folder
        (rules.fallback == .escalate)) = .ok walk →
      walk.found = some manifest → p manifest) :
    Search.Reads p place other (locate rules place.cwd request name start) := by
  refine (reads_directory place.cwd request name start).bind fun folder hfolder => ?_
  refine (reads_lift (reads_script rules name folder)).bind fun found _ => ?_
  cases found with
  | some path => exact reads_pure _
  | none =>
      refine (Walk.reads_namedEntry rules hlists place.cwd request _ folder _).bind ?_
      exact fun walk hwalk => reads_fileOfWalk rules (hfound folder walk · hfolder hwalk) request name

end Library

end ModuleResolution
