import ModuleResolution.Proofs.Disk.Agreement
import ModuleResolution.Proofs.Resolve.Locate
import ModuleResolution.Proofs.Resolve.Reads
import ModuleResolution.Proofs.Session.Transparency

/-! # What files hold

A resolution reads texts at paths of one file name only, that of a manifest
(`Session.reads_resolve`). So a session cannot tell two places apart that agree on everything else
that is asked (`LooksAs`): what it replies and what it remembers are the same at both, call by call
(`session_run_eq`). Two disks with the same files and folders and with the same octets in all
manifests make such places, in whatever order their folders hold their entries.
-/

set_option autoImplicit false

namespace ModuleResolution

open Lookup (Reads)

def NamesManifest (path : String) : Prop := Path.fileName path = Layout.manifest

/-! ## Requests -/

variable {rules : Rules} {place other : Place}

/-- **Locating a library reads manifests only.** -/
theorem Library.reads_locate_manifests (hcwd : Path.isAbsolute place.cwd = true)
    (hlists : place.ListsAs other) (request : Request) (name start : String) :
    Search.Reads NamesManifest place other (locate rules place.cwd request name start) := by
  refine reads_locate rules hlists fun folder walk manifest hfolder hwalk hfound => ?_
  obtain ⟨habsolute, -⟩ := isAbsolute_of_directory hcwd hfolder
  obtain ⟨-, hmanifest⟩ := walk_of_namedEntry hcwd habsolute hwalk
  exact (hmanifest manifest hfound).2

namespace Rules

theorem reads_retryLibrary (hcwd : Path.isAbsolute place.cwd = true)
    (hlists : place.ListsAs other) (request : Request) (first : Failure) :
    Search.Reads NamesManifest place other (rules.retryLibrary place.cwd request first) := by
  refine .note rfl (Reads.bind (Library.reads_locate_manifests hcwd hlists request _ _) ?_)
  split <;> exact .done _

theorem reads_resolveLibrary (hcwd : Path.isAbsolute place.cwd = true)
    (hlists : place.ListsAs other) (request : Request) :
    Search.Reads NamesManifest place other (rules.resolveLibrary place.cwd request) := by
  refine Reads.bind (Library.reads_locate_manifests hcwd hlists request _ _) ?_
  split
  · split
    · exact reads_retryLibrary hcwd hlists request _
    · exact .done _
  · exact .done _

theorem reads_resolveFile (request : Request) (path : String) :
    Search.Reads NamesManifest place other (rules.resolveFile request path) := by
  refine (Search.reads_lift (reads_probeFile rules path)).bind fun found _ => ?_
  cases found with
  | some path => exact Search.reads_pure _
  | none => exact Search.reads_fail _ _

/-- **Resolving a request reads manifests only.** -/
theorem reads_resolveKey (hcwd : Path.isAbsolute place.cwd = true) (hlists : place.ListsAs other)
    (request : Request) (key : CacheKey) :
    Search.Reads NamesManifest place other (rules.resolveKey place.cwd request key) := by
  cases key with
  | builtin specifier => exact Search.reads_pure _
  | library specifier directory => exact reads_resolveLibrary hcwd hlists request
  | file path => exact reads_resolveFile request path

end Rules

theorem Session.reads_resolve (session : Session) (hcwd : Path.isAbsolute place.cwd = true)
    (hlists : place.ListsAs other) (request : Request) :
    (session.resolve place.cwd request).Reads NamesManifest place other := by
  unfold resolve
  dsimp only
  split
  · exact .done _
  · refine Reads.bind (Rules.reads_resolveKey hcwd hlists request _) ?_
    split
    · exact .done _
    · exact .note rfl (.done _)

/-! ## Places that look the same -/

/-- Two places that answer every question of a resolution in the same way. -/
structure Place.LooksAs (place other : Place) : Prop where
  cwd : place.cwd = other.cwd
  kinds : ∀ path, place.kind? path = other.kind? path
  lists : place.ListsAs other
  texts : ∀ path, NamesManifest path → place.readText path = other.readText path

/-- **Disks with the same files and folders and the same manifests** look the same. -/
theorem Place.looksAs_of_agreeOn {first second : Disk} (hfirst : first.HasDistinctNames)
    (hsecond : second.HasDistinctNames) (h : Disk.AgreeOn Layout.manifest first second)
    (cwd : String) : LooksAs ⟨first, cwd⟩ ⟨second, cwd⟩ where
  cwd := rfl
  kinds := Disk.kind?_eq h.kinds cwd
  lists := fun directory => Disk.paths_eq hfirst hsecond h.kinds cwd directory directory
  texts := fun _ hpath => Disk.readText_eq h hpath

namespace Stage

open Session (Call)

/-- A call has the same outcome at places that look the same. -/
theorem resolved_eq (h : place.LooksAs other) (hcwd : Path.isAbsolute place.cwd = true)
    (session : Session) (request : Request) :
    resolved ⟨place, session⟩ request = resolved ⟨other, session⟩ request := by
  show (session.resolve place.cwd request).outcome place =
    (session.resolve other.cwd request).outcome other
  rw [← h.cwd]
  exact (session.reads_resolve hcwd h.lists request).outcome_eq h.kinds h.texts

/-- **A session is the same after the same calls** at places that look the same. -/
theorem session_run_eq (h : place.LooksAs other) (hcwd : Path.isAbsolute place.cwd = true)
    (session : Session) (calls : List Call) :
    (run ⟨place, session⟩ (calls.map .call)).session =
      (run ⟨other, session⟩ (calls.map .call)).session := by
  -- both places go on with the same session, so it is left general
  induction calls generalizing session with
  | nil => rfl
  | cons call rest ih =>
      cases call with
      | resolve specifier directory =>
          have hrequest : request ⟨place, session⟩ specifier directory =
              request ⟨other, session⟩ specifier directory := by
            rw [request, request, h.cwd]
          show (run ⟨place, (resolved ⟨place, session⟩ _).2⟩ _).session =
            (run ⟨other, (resolved ⟨other, session⟩ _).2⟩ _).session
          rw [hrequest, resolved_eq h hcwd]
          exact ih _
      | configure options => exact ih _

/-- **What files hold makes no difference, except for manifests.** On two disks with the same files
and folders, whose files with the name of a manifest hold the same octets, every request has the
same reply after the same calls, be it a path or the reason why there is none. -/
theorem reply_run_eq_of_agreeOn (options : Options) (cwd : String)
    (hcwd : Path.isAbsolute cwd = true) (first second : Disk) (hfirst : first.HasDistinctNames)
    (hsecond : second.HasDistinctNames) (h : Disk.AgreeOn Layout.manifest first second)
    (calls : List Call) (specifier : String) (directory : Option String) :
    let stage (disk : Disk) := (start options ⟨disk, cwd⟩).run (calls.map .call)
    (stage first).reply ((stage first).request specifier directory) =
      (stage second).reply ((stage second).request specifier directory) := by
  intro stage
  have hlooks : Place.LooksAs ⟨first, cwd⟩ ⟨second, cwd⟩ :=
    Place.looksAs_of_agreeOn hfirst hsecond h cwd
  have hsession : (stage first).session = (stage second).session :=
    session_run_eq hlooks hcwd (.start options) calls
  have hplace : ∀ disk, stage disk = ⟨⟨disk, cwd⟩, (stage disk).session⟩ := by
    intro disk
    have hsame : (stage disk).place = ⟨disk, cwd⟩ := place_run_of_calls _ calls
    rw [← hsame]
  rw [hplace first, hplace second, ← hsession]
  exact congrArg Prod.fst (resolved_eq hlooks hcwd _ _)

/-- A disk with a library in `/p`. -/
def installed (library : Disk) : Disk :=
  .subfolder "p" (.subfolder "node_modules" (.subfolder "a" library .empty) .empty) .empty

/-- A library whose script was changed and put before its manifest. -/
theorem reply_run_eq_of_agreeOn_changed :
    let manifest := Utf8.encode "\x7b\"main\": \"lib\"\x7d"
    let first := installed (.file "package.json" manifest (.file "lib.js" [0x31] .empty))
    let second := installed (.file "lib.js" [0x32] (.file "package.json" manifest .empty))
    let stage (disk : Disk) := start {} ⟨disk, "/p"⟩
    (stage first).reply ((stage first).request "a" none) = .ok "/p/node_modules/a/lib.js" ∧
      (stage second).reply ((stage second).request "a" none) = .ok "/p/node_modules/a/lib.js" := by
  intro manifest first second stage
  have hagree : Disk.AgreeOn Layout.manifest first second := by
    refine ((Disk.AgreeOn.subfolder ?_ "a").subfolder "node_modules").subfolder "p"
    refine Disk.agreeOn_of_get? fun next => ?_
    by_cases hmanifest : next = "package.json"
    · refine Or.inr (Or.inl ⟨manifest, manifest, ?_, ?_, fun _ => rfl⟩) <;>
      simp [Folder.get?, hmanifest]
    · by_cases hscript : next = "lib.js"
      · refine Or.inr (Or.inl ⟨[0x31], [0x32], ?_, ?_, fun heq => absurd heq hmanifest⟩) <;>
        simp [Folder.get?, hscript]
      · exact Or.inl (by simp [Folder.get?, Ne.symm hmanifest, Ne.symm hscript])
  have hfirst : (stage first).reply ((stage first).request "a" none) =
      .ok "/p/node_modules/a/lib.js" := by decide +kernel
  have hsame := reply_run_eq_of_agreeOn {} "/p" (by decide +kernel) first second
    (by decide +kernel) (by decide +kernel) hagree [] "a" none
  exact ⟨hfirst, hsame.symm.trans hfirst⟩

end Stage

end ModuleResolution
