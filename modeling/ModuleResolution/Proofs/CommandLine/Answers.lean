import ModuleResolution.Proofs.Console.Shown
import ModuleResolution.Proofs.Json.Written
import ModuleResolution.Proofs.Session.Logged

/-! # Answers

The specifiers of a command are resolved one after the other in one session, which remembers what it
found. As that makes no difference, the answers are those of a new session for each specifier, in
order (`run_answerAll`). What a run prints and whether it fails comes of them (`run_resolve`). Two
things keep it from being the answers exactly: sequences that control a terminal are not printed,
and what is logged on the disk may be found there.
-/

set_option autoImplicit false

namespace ModuleResolution

/-- An action does not change the current directory. -/
theorem Action.cwd_run {α : Type} (moment : String) (place : Place) (action : Action α) :
    (action.run moment place).2.cwd = place.cwd := by
  have hchanged (place : Place) (result : Except DiskFailure Disk) :
      (place.changed result).2.cwd = place.cwd := by
    cases result <;> rfl
  induction action generalizing place with
  | done value => rfl
  | kind path next ih => exact ih _ place
  | text path next ih => exact ih _ place
  | shape path next ih => exact ih _ place
  | makeFolders path next ih => exact (ih _ _).trans (hchanged place _)
  | write path content next ih => exact (ih _ _).trans (hchanged place _)
  | append path content next ih => exact (ih _ _).trans (hchanged place _)
  | time next ih => exact ih _ place

namespace CommandLine

open Session (Call)

/-! ## The answers of a session -/

/-- How a new session looks for a specifier. -/
def lookAnew (options : Options) (place : Place) (directory : Option String) (specifier : String) :
    Lookup (Except Stop String × Session) :=
  (Session.start options).resolve place.cwd (.from place.cwd specifier directory)

/-- What a new session replies to the request for a specifier. -/
def replyAnew (options : Options) (place : Place) (directory : Option String)
    (specifier : String) : Except Stop String :=
  ((lookAnew options place directory specifier).outcome place).1

/-- A journal that asks for more than debugging stays out of what new sessions look for. -/
theorem staysOutOf_lookAnew {journal : Journal} {moment : String} {place : Place}
    (h : Level.debug.passes journal.threshold = false) (hcwd : Path.isAbsolute place.cwd = true)
    (options : Options) (directory : Option String) (specifiers : List String) :
    journal.StaysOutOf moment place (specifiers.map (lookAnew options place directory)) := by
  refine Journal.staysOutOf_of_threshold h fun lookup hlookup note hnote => ?_
  obtain ⟨specifier, -, rfl⟩ := List.mem_map.mp hlookup
  exact Session.level_of_mem_notes hcwd (.start options) _ hnote

/-- The answer for the first specifier, and those for the rest if it is no crash. -/
theorem run_answerAll_cons (cwd : String) (journal : Journal) (moment : String) (now : Place)
    (directory : Option String) (json : Bool) (session : Session) (specifier : String)
    (rest : List String) :
    let request := Request.from cwd specifier directory
    let followed := (journal.follow (session.resolve cwd request)).run moment now
    ((answerAll cwd journal directory json session (specifier :: rest)).run moment now).1 =
      (Answer.ofResult json specifier followed.1.1).bind fun answer =>
        ((answerAll cwd journal directory json followed.1.2 rest).run moment followed.2).1.map
          (answer :: ·) := by
  intro request followed
  rw [answerAll, Action.run_bind]
  dsimp only
  cases Answer.ofResult json specifier followed.1.1 with
  | error crash => rfl
  | ok answer =>
      dsimp only
      rw [Action.run_bind]
      rfl

theorem mapM_cons_eq {ε α β : Type} (f : α → Except ε β) (item : α) (rest : List α) :
    (item :: rest).mapM f = (f item).bind fun value => (rest.mapM f).map (value :: ·) := by
  rw [List.mapM_cons]
  cases f item with
  | error failure => rfl
  | ok value =>
      show (rest.mapM f).bind (fun values => .ok (value :: values)) = _
      cases rest.mapM f <;> rfl

/-- **A session answers as a new one would**, specifier by specifier. -/
theorem run_answerAll {place : Place} {journal : Journal} {moment : String} {options : Options}
    {directory : Option String} {lookups : List (Lookup (Except Stop String × Session))}
    (hjournal : journal.StaysOutOf moment place lookups) (json : Bool) {session : Session}
    (hrules : session.rules = options.rules) (hfounded : Stage.Founded (· = place) ⟨place, session⟩)
    {specifiers : List String}
    (hlookups : ∀ specifier ∈ specifiers, lookAnew options place directory specifier ∈ lookups)
    {now : Place} (hnow : journal.Leaves moment place (lookups.flatMap (·.notes place)) now) :
    ((answerAll place.cwd journal directory json session specifiers).run moment now).1 =
      specifiers.mapM fun specifier =>
        Answer.ofResult json specifier (replyAnew options place directory specifier) := by
  -- each specifier finds a session that remembers more and a place where more is logged
  induction specifiers generalizing session now with
  | nil => rfl
  | cons specifier rest ih =>
      let stage : Stage := ⟨place, session⟩
      let request := stage.request specifier directory
      -- what is remembered was found at this place, so it is what would be found anew
      have hreply : (stage.resolved request).1 = replyAnew options place directory specifier := by
        have huncached : stage.reply request = stage.uncached request :=
          Stage.reply_of_founded hfounded request
        have hanew : replyAnew options place directory specifier =
            Search.outcome place (options.rules.resolve place.cwd request) :=
          Stage.reply_start options place request
        rw [hanew, ← hrules]
        exact huncached
      have hnext : Stage.Founded (· = place) ⟨place, (stage.resolved request).2⟩ :=
        @Stage.founded_step (· = place) stage rfl hfounded (.call (.resolve specifier directory))
      let followed := (journal.follow (session.resolve place.cwd request)).run moment now
      have hfollowed : followed.1 = stage.resolved request ∧
          journal.Leaves moment place (lookups.flatMap (·.notes place)) followed.2 := by
        have hlookup := hlookups specifier List.mem_cons_self
        obtain ⟨hnotes, hquestions⟩ := Session.resolve_subset place hrules place.cwd request
        refine Journal.run_follow (fun now hleft => hjournal now hleft _ hlookup) ?_ hquestions hnow
        exact fun note hnote => List.mem_flatMap.mpr ⟨_, hlookup, hnotes hnote⟩
      have hrest := ih ((Stage.rules_resolved stage request).trans hrules) hnext
        (fun other hmem => hlookups other (List.mem_cons_of_mem _ hmem)) hfollowed.2
      rw [run_answerAll_cons, mapM_cons_eq]
      show (Answer.ofResult json specifier followed.1.1).bind (fun answer =>
        ((answerAll place.cwd journal directory json followed.1.2 rest).run moment followed.2).1.map
          (answer :: ·)) = _
      rw [hfollowed.1, hreply, hrest]

/-! ## What answers tell -/

/-- A path without escape characters is printed as it is. -/
theorem plain_of_not_mem {path : String} (h : '\x1b' ∉ path.toList) :
    Console.plain path = path := by
  have hkept (steps : Nat) (chars : List Char) (hescape : '\x1b' ∉ chars) :
      Console.withoutControls steps chars = chars := by
    induction chars generalizing steps with
    | nil => cases steps <;> rfl
    | cons c rest ih =>
        cases steps with
        | zero => rfl
        | succ steps =>
            simp only [List.mem_cons, not_or] at hescape
            have hnone : Console.afterControl? (c :: rest) = none := by
              unfold Console.afterControl?
              split
              · next heq => exact absurd (List.cons.inj heq).1.symm hescape.1
              · rfl
            rw [Console.withoutControls, hnone]
            exact congrArg _ (ih steps hescape.2)
  rw [Console.plain, hkept _ _ h, String.ofList_toList]

/-- The fields that tell what a specifier comes to. -/
def resultFields (specifier : String) : Except Failure String → Mapping
  | .ok path =>
    [(.text "specifier", .text specifier), (.text "resolved", .text path), (.text "error", .null)]
  | .error failure =>
    [(.text "specifier", .text specifier), (.text "resolved", .null),
      (.text "error", .text failure.kind.name), (.text "message", .text failure.message),
      (.text "from_directory", .text failure.request.directory)]

/-- There are only texts in these fields, so they can be written. -/
theorem isWritable_resultFields (specifier : String) (outcome : Except Failure String) :
    Json.IsWritable (.mapping (resultFields specifier outcome)) := by
  cases outcome <;>
    simp [Json.IsWritable, Json.AreWritable, resultFields, Value.scalars, Value.keys,
      Value.scalarsOfEntries, Value.keysOfEntries, Scalar.isLong, Scalar.isName]

/-- An answer tells what a specifier comes to; a failure has its report unless it is told as
fields. -/
inductive Tells (json : Bool) (specifier : String) : Except Failure String → Answer → Prop
  | found (path : String) : Tells json specifier (.ok path) (.found specifier path)
  | failed (failure : Failure) {shown : String}
    (hshown : json = false → showFailure failure = .ok shown) :
    Tells json specifier (.error failure) (.failed specifier failure shown)

theorem exists_tells (json : Bool) (specifier : String) (outcome : Except Failure String) :
    ∃ answer, Answer.ofResult json specifier (outcome.mapError .failed) = .ok answer ∧
      Tells json specifier outcome answer := by
  cases outcome with
  | ok path => exact ⟨_, rfl, .found path⟩
  | error failure =>
      cases json with
      | true => exact ⟨_, rfl, .failed failure nofun⟩
      | false =>
          obtain ⟨shown, hshown⟩ := exists_showFailure failure
          refine ⟨.failed specifier failure shown, ?_, .failed failure fun _ => hshown⟩
          simp only [Answer.ofResult, Except.mapError, hshown]
          rfl

variable {json : Bool} {outcomes : String → Except Failure String}

/-- There is an answer for each specifier, in order. -/
theorem exists_answers {reply : String → Except Stop String} {specifiers : List String}
    (h : ∀ specifier ∈ specifiers, reply specifier = (outcomes specifier).mapError .failed) :
    ∃ answers, (specifiers.mapM fun specifier => Answer.ofResult json specifier (reply specifier)) =
        .ok answers ∧
      List.Forall₂ (fun specifier => Tells json specifier (outcomes specifier))
        specifiers answers := by
  induction specifiers with
  | nil => exact ⟨[], rfl, .nil⟩
  | cons specifier rest ih =>
      obtain ⟨answer, hanswer, htells⟩ := exists_tells json specifier (outcomes specifier)
      obtain ⟨answers, hanswers, hall⟩ := ih fun other hmem => h other (List.mem_cons_of_mem _ hmem)
      refine ⟨answer :: answers, ?_, .cons htells hall⟩
      rw [List.mapM_cons, h specifier List.mem_cons_self, hanswer, hanswers]
      rfl

def pathsOf (outcomes : String → Except Failure String) (specifiers : List String) : List String :=
  specifiers.filterMap fun specifier => (outcomes specifier).toOption

def failuresOf (outcomes : String → Except Failure String) (specifiers : List String) :
    List Failure :=
  specifiers.filterMap fun specifier =>
    match outcomes specifier with
    | .ok _ => none
    | .error failure => some failure

section Tells

variable {specifiers : List String} {answers : List Answer}
  (h : List.Forall₂ (fun specifier => Tells json specifier (outcomes specifier)) specifiers answers)
include h

theorem fields_of_tells :
    answers.map Answer.fields =
      specifiers.map fun specifier => resultFields specifier (outcomes specifier) := by
  induction h with
  | nil => rfl
  | @cons specifier answer rest answers htells _ ih =>
      rw [List.map_cons, List.map_cons, ih]
      generalize outcomes specifier = outcome at htells ⊢
      cases htells <;> rfl

theorem isFailed_of_tells :
    answers.any Answer.isFailed = !(failuresOf outcomes specifiers).isEmpty := by
  induction h with
  | nil => rfl
  | @cons specifier answer rest answers htells _ ih =>
      rw [List.any_cons, ih]
      simp only [failuresOf, List.filterMap_cons]
      generalize outcomes specifier = outcome at htells ⊢
      cases htells <;> rfl

theorem output_of_tells :
    String.join (answers.map Answer.output) =
      String.join ((pathsOf outcomes specifiers).map fun path => Console.plain path ++ "\n") := by
  induction h with
  | nil => rfl
  | @cons specifier answer rest answers htells _ ih =>
      rw [List.map_cons, String.join_cons, ih]
      simp only [pathsOf, List.filterMap_cons]
      generalize outcomes specifier = outcome at htells ⊢
      cases htells with
      | found path => exact String.join_cons.symm
      | failed failure hshown => exact String.empty_append

theorem errors_of_tells (hjson : json = false) :
    ∃ reports : List String,
      (failuresOf outcomes specifiers).map showFailure = reports.map .ok ∧
        String.join (answers.map Answer.errors) = String.join (reports.map (· ++ "\n")) := by
  induction h with
  | nil => exact ⟨[], rfl, rfl⟩
  | @cons specifier answer rest answers htells _ ih =>
      obtain ⟨reports, hreports, hjoin⟩ := ih
      rw [List.map_cons, String.join_cons, hjoin]
      simp only [failuresOf, List.filterMap_cons] at hreports ⊢
      generalize outcomes specifier = outcome at htells ⊢
      cases htells with
      | found path => exact ⟨reports, hreports, String.empty_append⟩
      | @failed failure shown hshown =>
          refine ⟨shown :: reports, ?_, String.join_cons.symm⟩
          rw [List.map_cons, List.map_cons, hshown hjson, hreports]

end Tells

/-! ## Runs -/

/-- A command line that is carried out at a place up to where its specifiers are resolved. -/
structure Resolving (surroundings : Surroundings) (journal : Journal) (moment : String)
    (place : Place) (args : List String) where
  program : Program
  /-- The arguments behind the name of the command. -/
  rest : List String
  command : ResolveCommand
  /-- The journal that is set up, and the place where it has been. -/
  kept : Journal
  ready : Place
  /-- The options of the settings, and the place where these have been read. -/
  base : Options
  loaded : Place
  isRead : Program.read args = .ok (.made program)
  isResolve : program.command = some ("resolve", rest)
  isCommand : ResolveCommand.read rest = .ok (.made command)
  hasSpecifier : command.specifiers ≠ []
  isKept : (program.setUpJournal surroundings journal).run moment place = ((.ok (), kept), ready)
  mayStart : ∀ directory, command.directory = some directory →
    Disk.isImpossible directory = false ∧ ready.kind? directory ≠ some .file
  isLoaded : (baseOptions surroundings kept command.useSettings).run moment ready =
    (.ok base, loaded)

namespace Resolving

variable {surroundings : Surroundings} {journal : Journal} {moment : String} {place : Place}
  {args : List String}

theorem cwd_loaded (r : Resolving surroundings journal moment place args) :
    r.loaded.cwd = place.cwd := by
  have hready := Action.cwd_run moment place (r.program.setUpJournal surroundings journal)
  have hloaded := Action.cwd_run moment r.ready
    (baseOptions surroundings r.kept r.command.useSettings)
  rw [r.isKept] at hready
  rw [r.isLoaded] at hloaded
  exact hloaded.trans hready

/-- Nothing is wrong with the directory and the number of specifiers. -/
theorem run_runChecked (r : Resolving surroundings journal moment place args) :
    (r.command.runChecked surroundings r.kept).run moment r.ready =
      (r.command.run surroundings r.kept).run moment r.ready := by
  have hspecified : r.command.runSpecified surroundings r.kept =
      r.command.run surroundings r.kept := by
    unfold ResolveCommand.runSpecified
    rw [if_neg (by simpa using r.hasSpecifier)]
  unfold ResolveCommand.runChecked
  rw [hspecified]
  -- the directory is looked at first, if one is given
  cases hdirectory : r.command.directory with
  | none => rfl
  | some directory =>
      obtain ⟨hpossible, hkind⟩ := r.mayStart directory hdirectory
      dsimp only
      rw [hpossible, if_neg Bool.false_ne_true, Action.run, if_neg hkind]

/-- The outcome is that of the answers to the specifiers. -/
theorem outcome_eq (r : Resolving surroundings journal moment place args)
    (hcwd : place.cwd = surroundings.place.cwd) :
    ((run surroundings journal args).run moment place).1.1 =
      match ((answerAll r.loaded.cwd r.kept r.command.directory r.command.json
        (.start (r.command.extend r.base)) r.command.specifiers).run moment r.loaded).1 with
      | .error crash => .crashed crash
      | .ok answers => .ofAnswers r.command.json answers := by
  have hcall : runCommand surroundings r.kept r.program.command =
      r.command.runChecked surroundings r.kept := by
    rw [r.isResolve, runCommand, r.isCommand]
    rfl
  rw [run, r.isRead]
  dsimp only
  rw [Program.run, Action.run_bind, r.isKept]
  dsimp only
  rw [Action.run_bind, hcall, r.run_runChecked, ResolveCommand.run, Action.run_bind, r.isLoaded,
    r.cwd_loaded, hcwd]
  dsimp only
  rw [Action.run_bind]
  generalize (answerAll surroundings.place.cwd r.kept r.command.directory r.command.json
    (.start (r.command.extend r.base)) r.command.specifiers).run moment r.loaded = answered
  rcases answered with ⟨crash | answers, left⟩ <;> rfl

end Resolving

theorem exitCode_of_printed {outcome : Outcome} {failures : List Failure} {output errors : String}
    (h : outcome = .printed (!failures.isEmpty) output errors) :
    outcome.exitCode = if failures.isEmpty then 0 else 1 := by
  rw [h]
  cases failures <;> rfl

/-- **What a command to resolve prints, and whether it fails.** -/
theorem run_resolve {surroundings : Surroundings} {journal : Journal} {moment : String}
    {place : Place} {args : List String} (r : Resolving surroundings journal moment place args)
    (hcwd : place.cwd = surroundings.place.cwd)
    (hjournal : r.kept.StaysOutOf moment r.loaded
      (r.command.specifiers.map (lookAnew (r.command.extend r.base) r.loaded r.command.directory)))
    (outcomes : String → Except Failure String)
    (houtcomes : ∀ specifier ∈ r.command.specifiers,
      replyAnew (r.command.extend r.base) r.loaded r.command.directory specifier =
        (outcomes specifier).mapError .failed) :
    let specifiers := r.command.specifiers
    let failures := failuresOf outcomes specifiers
    let outcome := ((run surroundings journal args).run moment place).1.1
    (outcome.exitCode = if failures.isEmpty then 0 else 1) ∧
    (r.command.json = true → ∃ text,
      Json.indented .ascii (.list (specifiers.map fun specifier =>
        .mapping (resultFields specifier (outcomes specifier)))) = .ok text ∧
      outcome = .printed (!failures.isEmpty) (text ++ "\n") "") ∧
    (r.command.json = false → ∃ reports : List String,
      failures.map showFailure = reports.map .ok ∧
      outcome = .printed (!failures.isEmpty)
        (String.join ((pathsOf outcomes specifiers).map fun path => Console.plain path ++ "\n"))
        (String.join (reports.map (· ++ "\n")))) := by
  intro specifiers failures outcome
  -- the answers are those of new sessions, one for each specifier
  obtain ⟨answers, hanswers, htells⟩ := @exists_answers r.command.json _ _ _ houtcomes
  let options := r.command.extend r.base
  have hrules : (Session.start options).rules = options.rules := rfl
  have hrun := run_answerAll hjournal r.command.json hrules (Stage.founded_start _ _ r.loaded)
    (fun _ hmem => List.mem_map_of_mem hmem) .start
  have houtcome : outcome = .ofAnswers r.command.json answers := by
    show ((run surroundings journal args).run moment place).1.1 = _
    rw [r.outcome_eq hcwd, hrun, hanswers]
  have hfailed : answers.any Answer.isFailed = !failures.isEmpty := isFailed_of_tells htells
  -- from here on the modes differ: the answers are the same, what is shown of them is not
  cases hjson : r.command.json with
  | true =>
      rw [hjson] at houtcome htells
      have hfields : answers.map (fun answer => Value.mapping answer.fields) =
          specifiers.map fun specifier =>
            .mapping (resultFields specifier (outcomes specifier)) := by
        have htold := congrArg (List.map Value.mapping) (fields_of_tells htells)
        rwa [List.map_map, List.map_map] at htold
      obtain ⟨text, htext⟩ := (Json.exists_write_iff .ascii .indented 0 _).mpr <|
        Json.isWritable_list (List.forall_mem_map.mpr fun specifier (_ : specifier ∈ specifiers) =>
          isWritable_resultFields specifier (outcomes specifier))
      have hprinted : outcome = .printed (!failures.isEmpty) (text ++ "\n") "" := by
        rw [houtcome, Outcome.ofAnswers, hfailed, hfields, Json.indented, htext]
        rfl
      exact ⟨exitCode_of_printed hprinted, fun _ => ⟨text, htext, hprinted⟩, nofun⟩
  | false =>
      rw [hjson] at houtcome htells
      obtain ⟨reports, hreports, herrors⟩ := errors_of_tells htells rfl
      have hprinted : outcome = .printed (!failures.isEmpty)
          (String.join ((pathsOf outcomes specifiers).map fun path => Console.plain path ++ "\n"))
          (String.join (reports.map (· ++ "\n"))) := by
        rw [houtcome, Outcome.ofAnswers, hfailed, ← herrors, ← output_of_tells htells]
        rfl
      exact ⟨exitCode_of_printed hprinted, nofun, fun _ => ⟨reports, hreports, hprinted⟩⟩

/-- A command line in a folder with one file, for specifiers of which the second leads nowhere. -/
def mixedLine (json : Bool) : List String :=
  ["resolve", "--no-settings"] ++ (if json then ["--json"] else []) ++ ["./a", "./b", "./a"]

def resolvingMixed (json : Bool) :
    Resolving ⟨⟨"/h", "/p"⟩, none, none⟩ {} "" (.alone "a.ts") (mixedLine json) where
  program := ⟨none, none, some ("resolve", (mixedLine json).tail)⟩
  rest := (mixedLine json).tail
  command := ⟨["./a", "./b", "./a"], none, [], [], [], [], false, false, false, json⟩
  kept := {}
  ready := .alone "a.ts"
  base := {}
  loaded := .alone "a.ts"
  isRead := by cases json <;> decide +kernel
  isResolve := rfl
  isCommand := by cases json <;> decide +kernel
  hasSpecifier := nofun
  isKept := rfl
  mayStart := nofun
  isLoaded := rfl

/-- A specifier that leads to a file, one that does not, and the first one again, in both modes. -/
theorem run_resolve_mixed :
    let found := Except.ok "/p/a.ts"
    let missing := Except.error ⟨⟨"./b", "/p"⟩, .noFile "/p/b"⟩
    let outcome (json : Bool) :=
      ((run ⟨⟨"/h", "/p"⟩, none, none⟩ {} (mixedLine json)).run "" (.alone "a.ts")).1.1
    (∀ json, (outcome json).exitCode = 1) ∧
    (∃ text, Json.indented .ascii (.list [.mapping (resultFields "./a" found),
        .mapping (resultFields "./b" missing), .mapping (resultFields "./a" found)]) = .ok text ∧
      outcome true = .printed true (text ++ "\n") "") ∧
    outcome false = .printed true "/p/a.ts\n/p/a.ts\n"
      ("FileNotFound: './b' from /p\n"
        ++ "  Could not find a file on disk for './b' (from '/p'): /p/b\n") := by
  intro found missing outcome
  let outcomes (specifier : String) : Except Failure String :=
    if specifier = "./a" then found else missing
  have houtcomes (json : Bool) : ∀ specifier ∈ (resolvingMixed json).command.specifiers,
      replyAnew ((resolvingMixed json).command.extend {}) (.alone "a.ts") none specifier =
        (outcomes specifier).mapError .failed := by
    cases json <;> decide +kernel
  have hrun (json : Bool) := run_resolve (resolvingMixed json) rfl
    (Journal.staysOutOf_of_sinks rfl _) outcomes (houtcomes json)
  have hexit (json : Bool) : (outcome json).exitCode = 1 :=
    (hrun json).1.trans (by cases json <;> decide +kernel)
  refine ⟨hexit, (hrun true).2.1 rfl, ?_⟩
  -- the reports are those of the failures, and there is one
  obtain ⟨reports, hreports, hprinted⟩ := (hrun false).2.2 rfl
  have hreport : (failuresOf outcomes ["./a", "./b", "./a"]).map showFailure =
      ["FileNotFound: './b' from /p\n"
        ++ "  Could not find a file on disk for './b' (from '/p'): /p/b"].map .ok := by
    decide +kernel
  have hsame : reports = _ :=
    List.map_injective_iff.mpr (fun _ _ => Except.ok.inj) (hreports.symm.trans hreport)
  subst hsame
  exact hprinted.trans (by decide +kernel)

/-- Not exactly the path of an answer is printed if there is a sequence in it that controls a
terminal, and a file of log lines may be found although a new session finds none. -/
theorem run_resolve_not_exact :
    let colored : Place := ⟨.subfolder "s" (.file "a\x1b[31mb.ts" [] .empty) .empty, "/s"⟩
    let logged : Place := .alone "a.ts"
    let logging := ["--log-level", "DEBUG", "--log-file", "x.jsonl"]
    let resolving := ["resolve", "--no-settings", "--ext", "jsonl", "./a", "./x"]
    replyAnew {} colored none "/s/a\x1b[31mb" = .ok "/s/a\x1b[31mb.ts" ∧
      ((run ⟨⟨"/h", "/s"⟩, none, none⟩ {} ["resolve", "--no-settings", "/s/a\x1b[31mb"]).run ""
        colored).1.1 = .printed false "/s/ab.ts\n" "" ∧
      replyAnew { extraExtensions := ["jsonl"] } logged none "./x" =
        .error (.failed ⟨⟨"./x", "/p"⟩, .noFile "/p/x"⟩) ∧
      ((run ⟨⟨"/h", "/p"⟩, none, none⟩ {} (logging ++ resolving)).run "" logged).1.1 =
        .printed false "/p/a.ts\n/p/x.jsonl\n" "" := by
  decide +kernel

end CommandLine

end ModuleResolution
