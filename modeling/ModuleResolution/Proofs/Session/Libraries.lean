import ModuleResolution.Proofs.Json.Excess
import ModuleResolution.Proofs.Resolve.Plain
import ModuleResolution.Proofs.Session.Course

/-! # Replies to library specifiers

Three statements on what a session replies. A path that is given for a library is that of a file,
or a manifest names it in full (`reply_start_grounded`). A reply that is no path is a failure of
the request and says so (`reply_ok_or_failed`), and the reply for a library is what looking for it
in plain words comes to (`reply_start_eq_plain`), both of them unless some manifest has an excess:
that is no failure of the request, and it is not followed by a second attempt
(`reply_of_overlong`, `plain_of_overlong`).
-/

set_option autoImplicit false

namespace ModuleResolution.Stage

/-! ## Paths -/

/-- **A library specifier leads to a file, or where a manifest says in full.** In a current
directory that is absolute, a new session replies with an absolute path, and it is that of a file
unless it is the entry of a manifest, whose extension is allowed and not excluded. -/
theorem reply_start_grounded (options : Options) (place : Place)
    (hcwd : Path.isAbsolute place.cwd = true) (specifier : String)
    (hlibrary : Specifier.namesLibrary specifier = true)
    (hbuiltin : options.rules.builtins.contains specifier = false) (directory : Option String)
    (path : String) :
    let stage := start options place
    stage.reply (stage.request specifier directory) = .ok path →
      Path.isAbsolute path = true ∧ options.rules.IsGrounded place path := by
  intro stage h
  rw [reply_start, Rules.resolve_eq_resolveLibrary hlibrary hbuiltin] at h
  obtain ⟨start, hattempt⟩ := Rules.attempt_of_resolveLibrary h
  exact Library.isGrounded_of_locate hcwd hattempt

/-- A manifest that names a script which is not there. -/
theorem reply_start_grounded_missing :
    let manifest := Utf8.encode "\x7b\"main\": \"x.js\"\x7d"
    let place : Place := ⟨.subfolder "p" (.subfolder "node_modules"
      (.subfolder "a" (.file "package.json" manifest .empty) .empty) .empty) .empty, "/p"⟩
    let stage := start {} place
    let path := "/p/node_modules/a/x.js"
    stage.reply (stage.request "a" none) = .ok path ∧ place.kind? path = none ∧
      ∃ manifest entries, place.HasManifest manifest entries ∧
        path = Path.join [Path.parent manifest, Manifest.entry ({} : Options).rules entries] := by
  intro manifest place stage path
  have hreply : stage.reply (stage.request "a" none) = .ok path := by decide +kernel
  have hmissing : place.kind? path = none := by decide +kernel
  obtain ⟨-, hfile | ⟨file, entries, hholds, hpath, -⟩⟩ := reply_start_grounded {} place
    (by decide +kernel) "a" (by decide +kernel) (by decide +kernel) none path hreply
  · rw [hmissing] at hfile
    cases hfile
  · exact ⟨hreply, hmissing, file, entries, hholds, hpath⟩

/-! ## Failures -/

/-- **A reply that is no path is a failure of the request.** On a lawful disk, whatever was
resolved before, the reply is a path, or a failure that carries the specifier as it was given and
the folder in normal form, and names both, or some manifest has an excess. -/
theorem reply_ok_or_failed (stage : Stage) (hcwd : Path.isAbsolute stage.place.cwd = true)
    (hdisk : stage.place.disk.IsLawful) (specifier : String) (directory : Option String) :
    let reply := stage.reply (stage.request specifier directory)
    let folder := Path.absolute stage.place.cwd (directory.getD stage.place.cwd)
    (∃ path, reply = .ok path) ∨
    (∃ failure, reply = .error (.failed failure) ∧ failure.request.specifier = specifier ∧
      failure.request.directory = folder ∧ Failure.Names failure.message ⟨specifier, folder⟩) ∨
    ∃ manifest excess, stage.place.HasExcess manifest excess ∧
      reply = .error (.excessive excess) := by
  intro reply folder
  rcases stage.resolve_cases (stage.request specifier directory) with
    ⟨path, -, hresolved⟩ | ⟨stop, -, huncached, hresolved⟩ | ⟨path, -, -, hresolved⟩
  · exact Or.inl ⟨path, congrArg Prod.fst hresolved⟩
  · have hreply : reply = .error stop := congrArg Prod.fst hresolved
    rcases Rules.stop_of_resolve hcwd hdisk huncached with
      ⟨cause, rfl⟩ | ⟨manifest, excess, hexcess, rfl⟩
    · exact Or.inr (Or.inl ⟨_, hreply, rfl, rfl, Failure.names_message _⟩)
    · exact Or.inr (Or.inr ⟨manifest, excess, hexcess, hreply⟩)
  · exact Or.inl ⟨path, congrArg Prod.fst hresolved⟩

/-- A manifest that is a folder. -/
theorem reply_ok_or_failed_folder :
    let place : Place := ⟨.subfolder "p" (.subfolder "node_modules"
      (.subfolder "a" (.subfolder "package.json" .empty .empty) .empty) .empty) .empty, "/p"⟩
    let stage := start {} place
    ∃ failure, stage.reply (stage.request "a" none) = .error (.failed failure) ∧
      failure.kind = .invalidPackageManifest ∧ Failure.Names failure.message ⟨"a", "/p"⟩ := by
  intro place stage
  let manifest := "/p/node_modules/a/package.json"
  let failure : Failure :=
    ⟨⟨"a", "/p"⟩, .badManifest manifest (.unreadable (.unreachable ⟨.isFolder, manifest⟩))⟩
  have hreply : stage.reply (stage.request "a" none) = .error (.failed failure) := by
    decide +kernel
  have hfolder : Path.absolute place.cwd place.cwd = "/p" := by decide +kernel
  rcases reply_ok_or_failed stage (by decide +kernel) (by decide +kernel) "a" none with
    ⟨path, hpath⟩ | ⟨other, hother, -, -, hnames⟩ | ⟨_, excess, -, hexcess⟩
  · rw [hreply] at hpath
    cases hpath
  · rw [hreply] at hother
    cases hother
    refine ⟨failure, hreply, rfl, ?_⟩
    rw [← hfolder]
    exact hnames
  · rw [hreply] at hexcess
    cases hexcess

/-- A place with a library `a` that has such a manifest, and with something one folder up. -/
def withManifest (octets : List UInt8) (outer : Disk) : Place :=
  ⟨.subfolder "q" (.subfolder "p" (.subfolder "node_modules" (.subfolder "a"
    (.file "package.json" octets .empty) .empty) .empty) outer) .empty, "/q/p"⟩

/-- A whole number of one digit more than can be read. -/
def overlong : List UInt8 := List.replicate (digitLimit + 1) 0x31

theorem hasExcess_withManifest (outer : Disk) :
    (withManifest overlong outer).HasExcess "/q/p/node_modules/a/package.json"
      (.digits (digitLimit + 1)) := by
  let location := ["q", "p", "node_modules", "a", "package.json"]
  have hpieces : Disk.piecesFrom "/q/p" "/q/p/node_modules/a/package.json" = "" :: location := by
    decide +kernel
  have hlocate : (withManifest overlong outer).disk.locate "/q/p"
      "/q/p/node_modules/a/package.json" = .ok location := by
    rw [Disk.locate, if_neg (by decide +kernel), if_neg (by decide +kernel), hpieces]
    simp [location, Disk.follow, withManifest, Folder.at?, Folder.get?]
  refine Place.hasExcess_of_ones (by decide +kernel) (Nat.lt_succ_self _) ?_
  refine Disk.readOctets_of_locate hlocate ?_
  simp [location, overlong, withManifest, Folder.at?, Folder.get?]

/-- An attempt that comes to the manifest of that place stops on it. -/
theorem attempt_withManifest (outer : Disk)
    (hfolder : Search.outcome (withManifest overlong outer)
      (Library.directory "/q/p" ⟨"a", "/q/p"⟩ "a" "/q/p") = .ok "/q/p/node_modules/a")
    (hscript : (Library.script ({} : Options).rules "a" "/q/p/node_modules/a").outcome
      (withManifest overlong outer) = none)
    (hwalk : Search.outcome (withManifest overlong outer) (Walk.namedEntry ({} : Options).rules
      "/q/p" ⟨"a", "/q/p"⟩ Layout.manifest "/q/p/node_modules/a" true) =
        .ok ⟨"/q/p/node_modules/a", some "/q/p/node_modules/a/package.json"⟩) :
    ({} : Options).rules.attempt (withManifest overlong outer) ⟨"a", "/q/p"⟩ "/q/p" =
      .error (.excessive (.digits (digitLimit + 1))) :=
  Library.locate_of_hasExcess hfolder hscript hwalk rfl (hasExcess_withManifest outer)

/-- **Too long a number is no failure of the request.** -/
theorem reply_of_overlong :
    let stage := start {} (withManifest overlong .empty)
    stage.reply (stage.request "a" none) = .error (.excessive (.digits (digitLimit + 1))) := by
  intro stage
  have hattempt := attempt_withManifest .empty (by decide +kernel) (by decide +kernel)
    (by decide +kernel)
  have hrequest : stage.request "a" none = ⟨"a", "/q/p"⟩ := by decide +kernel
  rw [hrequest, reply_start,
    Rules.resolve_eq_resolveLibrary (by decide +kernel) (by decide +kernel)]
  exact Rules.resolveLibrary_of_excessive hattempt

/-! ## Second attempts -/

/-- **The reply for a library is what looking for it in plain words comes to**, as long as neither
attempt comes to a manifest with an excess. And in any case an attempt that fails for want of a
dependency root, or of a library in the name, fails from the parent as well. -/
theorem reply_start_eq_plain (options : Options) (place : Place)
    (hcwd : Path.isAbsolute place.cwd = true) (hdisk : place.disk.IsLawful) (specifier : String)
    (hlibrary : Specifier.namesLibrary specifier = true)
    (hbuiltin : options.rules.builtins.contains specifier = false) (directory : Option String) :
    let stage := start options place
    let request := stage.request specifier directory
    let parent := Path.parent request.directory
    ((∀ excess, options.rules.attempt place request request.directory ≠
        .error (.excessive excess)) →
      (∀ excess, options.rules.attempt place ⟨specifier, parent⟩ parent ≠
        .error (.excessive excess)) →
      stage.reply request = options.rules.plain place request) ∧
    ∀ failure, options.rules.attempt place request request.directory = .error (.failed failure) →
      failure.kind = .dependencyRootNotFound ∨ failure.kind = .fileNotFound →
      ∃ second, options.rules.attempt place ⟨specifier, parent⟩ parent =
        .error (.failed second) := by
  intro stage request parent
  have hdirectory : Path.isAbsolute request.directory = true :=
    Path.isAbsolute_absoluteFrom hcwd _ _
  -- a new session remembers nothing, so its reply is what the rules come to
  constructor
  · intro hfirst hsecond
    have hresolve : options.rules.resolve place.cwd request =
        options.rules.resolveLibrary place.cwd request :=
      Rules.resolve_eq_resolveLibrary hlibrary hbuiltin
    rw [reply_start, hresolve]
    exact Rules.outcome_resolveLibrary_eq_plain hcwd hdisk hdirectory hfirst hsecond
  · intro failure hfirst hkind
    exact Library.locate_parent_of_isOfFolder hcwd hdisk hdirectory hfirst hkind _

/-- A folder of a library with nothing in it, and a script of that name further up; and a place
without any dependency root. -/
theorem reply_start_eq_plain_hoisted :
    let outer : Disk := .subfolder "node_modules" (.file "a.js" [] .empty) .empty
    let place : Place := ⟨.subfolder "q" (.subfolder "p" (.subfolder "node_modules"
      (.subfolder "a" .empty .empty) .empty) outer) .empty, "/q/p"⟩
    let stage := start {} place
    let request := stage.request "a" none
    stage.reply request = ({} : Options).rules.plain place request ∧
      stage.reply request = .ok "/q/node_modules/a.js" ∧
      ∃ second, ({} : Options).rules.attempt (.alone "b.ts") ⟨"a", Path.parent "/p"⟩
        (Path.parent "/p") = .error (.failed second) := by
  intro outer place stage request
  have hfirst : ({} : Options).rules.attempt place request request.directory =
      .error (.failed ⟨request, .noManifest "/q/p/node_modules/a"⟩) := by decide +kernel
  have hsecond : ({} : Options).rules.attempt place ⟨"a", Path.parent request.directory⟩
      (Path.parent request.directory) = .ok "/q/node_modules/a.js" := by decide +kernel
  have hplain : stage.reply request = ({} : Options).rules.plain place request := by
    refine (reply_start_eq_plain {} place (by decide +kernel) (by decide +kernel) "a"
      (by decide +kernel) (by decide +kernel) none).1 (fun excess h => ?_) (fun excess h => ?_)
    · cases hfirst.symm.trans h
    · cases hsecond.symm.trans h
  have hfound : ({} : Options).rules.plain place request = .ok "/q/node_modules/a.js" :=
    Rules.plain_of_second hfirst rfl (by decide +kernel) hsecond
  refine ⟨hplain, hplain.trans hfound, ?_⟩
  -- the other place: no attempt finds a dependency root, so the second one fails as well
  have hrequest : (start {} (.alone "b.ts")).request "a" none = ⟨"a", "/p"⟩ := by decide +kernel
  have hnowhere := (reply_start_eq_plain {} (.alone "b.ts") (by decide +kernel) (by decide +kernel)
    "a" (by decide +kernel) (by decide +kernel) none).2 ⟨⟨"a", "/p"⟩, .noDependencyRoot⟩
  rw [hrequest] at hnowhere
  exact hnowhere (by decide +kernel) (Or.inl rfl)

/-- **In plain words a second attempt would follow** on too long a number, and find the library. -/
theorem plain_of_overlong :
    let outer : Disk := .subfolder "node_modules" (.file "a.js" [] .empty) .empty
    let place := withManifest overlong outer
    (start {} place).reply ⟨"a", "/q/p"⟩ = .error (.excessive (.digits (digitLimit + 1))) ∧
      ({} : Options).rules.plain place ⟨"a", "/q/p"⟩ = .ok "/q/node_modules/a.js" := by
  intro outer place
  have hattempt := attempt_withManifest outer (by decide +kernel) (by decide +kernel)
    (by decide +kernel)
  have hparent : Path.parent "/q/p" = "/q" := by decide +kernel
  constructor
  · rw [reply_start, Rules.resolve_eq_resolveLibrary (by decide +kernel) (by decide +kernel)]
    exact Rules.resolveLibrary_of_excessive hattempt
  · refine Rules.plain_of_second hattempt rfl ?_ ?_
    · show Path.parent "/q/p" ≠ "/q/p"
      rw [hparent]
      decide
    · show ({} : Options).rules.attempt place ⟨"a", Path.parent "/q/p"⟩ (Path.parent "/q/p") = _
      rw [hparent]
      decide +kernel

end ModuleResolution.Stage
