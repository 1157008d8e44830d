import ModuleResolution.Proofs.Path.Anchored
import ModuleResolution.Proofs.Session.Transparency

/-! # Spellings of a path

A file can be asked for in many ways: with dots, with slashes more than needed, from another
folder. All that resolving looks at is the absolute path that the specifier stands for
(`Stage.target`), which is also its key. So spellings with one absolute path share one result
(`SharesResult`): whichever of them is resolved first, the others are answered from memory.
-/

set_option autoImplicit false

namespace ModuleResolution.Stage

variable {stage : Stage}

/-- The absolute path that a specifier stands for, as seen from a folder. -/
def target (stage : Stage) (specifier : String) (directory : Option String) : String :=
  Path.absoluteFrom stage.place.cwd (directory.getD stage.place.cwd) specifier

/-- The stage at which a request was just resolved and the disk became another one. -/
def afterwards (stage : Stage) (request : Request) (disk : Disk) : Stage :=
  ⟨{ stage.place with disk }, (stage.resolved request).2⟩

/-- Two requests share the result of a path. -/
structure SharesResult (stage : Stage) (path : String) (first second : Request) : Prop where
  key_first : stage.key first = .file path
  key_second : stage.key second = .file path
  /-- Both are given one file, or both fail because there is none. -/
  reply : (∃ found, stage.reply first = .ok found ∧ stage.reply second = .ok found) ∨
    (stage.reply first = .error (.failed ⟨first, .noFile path⟩) ∧
      stage.reply second = .error (.failed ⟨second, .noFile path⟩))
  /-- The same is remembered after either. -/
  session_eq : (stage.resolved first).2 = (stage.resolved second).2
  /-- What was found for the first is given for the second without asking any disk. -/
  remembered : ∀ found, stage.reply first = .ok found → ∀ disk,
    (stage.afterwards first disk).reply second = .ok found ∧
      (stage.afterwards first disk).questions second = []

/-! ## The key of a path specifier -/

/-- **The key of a path specifier** is the absolute path it stands for. -/
theorem key_request_of_path (hcwd : Path.isAbsolute stage.place.cwd = true) {specifier : String}
    (hpath : Specifier.namesLibrary specifier = false) (directory : Option String) :
    stage.key (stage.request specifier directory) = .file (stage.target specifier directory) := by
  have hsame : Path.absoluteFrom stage.place.cwd
      (Path.absolute stage.place.cwd (directory.getD stage.place.cwd)) specifier =
        stage.target specifier directory :=
    Path.absoluteFrom_absolute hcwd _ _
  rw [key, Rules.cacheKey, if_neg (by simpa [request, Request.from] using hpath), ← hsame]
  rfl

theorem uncached_of_key_eq_file {request : Request} {path : String}
    (h : stage.key request = .file path) :
    stage.uncached request =
      match (stage.session.rules.probed path).find? stage.place.isFile with
      | some found => .ok found
      | none => .error (.failed ⟨request, .noFile path⟩) := by
  unfold key at h
  rw [uncached, Rules.resolve, h]
  exact Rules.outcome_resolveFile _ _ request path

/-- What was found for a request is remembered under its key. -/
theorem get?_resolved_of_reply {request : Request} {found : String}
    (h : stage.reply request = .ok found) :
    (stage.resolved request).2.cache.get? (stage.key request) = some found := by
  rw [reply] at h
  rcases stage.resolve_cases request with
    ⟨path, hget, hresolved⟩ | ⟨stop, -, -, hresolved⟩ | ⟨path, hget, -, hresolved⟩
  · rw [hresolved] at h ⊢
    cases h
    exact hget
  · rw [hresolved] at h
    cases h
  · rw [hresolved] at h ⊢
    cases h
    show (stage.session.cache.insert _ _).get? _ = _
    rw [Cache.get?_insert_self, hget]
    rfl

/-! ## One result -/

/-- Resolving two requests with the key of one path comes to the same. -/
theorem resolved_of_keys_eq_file {first second : Request} {path : String}
    (hfirst : stage.key first = .file path) (hsecond : stage.key second = .file path) :
    (∃ found session, stage.resolved first = (.ok found, session) ∧
      stage.resolved second = (.ok found, session)) ∨
    (∃ session, stage.resolved first = (.error (.failed ⟨first, .noFile path⟩), session) ∧
      stage.resolved second = (.error (.failed ⟨second, .noFile path⟩), session)) := by
  cases hget : stage.session.cache.get? (.file path) with
  | some found =>
      refine Or.inl ⟨found, stage.session, ?_, ?_⟩
      · exact (resolved_of_hit (hfirst ▸ hget)).1
      · exact (resolved_of_hit (hsecond ▸ hget)).1
  | none =>
      have hfresh := resolved_of_miss (hfirst.symm ▸ hget)
      have hother := resolved_of_miss (hsecond.symm ▸ hget)
      rw [uncached_of_key_eq_file hfirst, hfirst] at hfresh
      rw [uncached_of_key_eq_file hsecond, hsecond] at hother
      cases hfind : (stage.session.rules.probed path).find? stage.place.isFile with
      | none =>
          rw [hfind] at hfresh hother
          exact Or.inr ⟨_, hfresh, hother⟩
      | some found =>
          rw [hfind] at hfresh hother
          exact Or.inl ⟨found, _, hfresh, hother⟩

theorem sharesResult_of_keys_eq_file {first second : Request} {path : String}
    (hfirst : stage.key first = .file path) (hsecond : stage.key second = .file path) :
    SharesResult stage path first second where
  key_first := hfirst
  key_second := hsecond
  reply := by
    rcases resolved_of_keys_eq_file hfirst hsecond with
      ⟨found, session, hone, hother⟩ | ⟨session, hone, hother⟩
    · exact Or.inl ⟨found, congrArg Prod.fst hone, congrArg Prod.fst hother⟩
    · exact Or.inr ⟨congrArg Prod.fst hone, congrArg Prod.fst hother⟩
  session_eq := by
    rcases resolved_of_keys_eq_file hfirst hsecond with
      ⟨found, session, hone, hother⟩ | ⟨session, hone, hother⟩ <;>
    exact (congrArg Prod.snd hone).trans (congrArg Prod.snd hother).symm
  remembered := by
    intro found hreply disk
    -- the rules and the current folder are the old ones, so the key is too
    have hkey : (stage.afterwards first disk).key second = .file path := by
      rw [← hsecond]
      show (stage.resolved first).2.rules.cacheKey _ _ = _
      rw [rules_resolved]
      rfl
    have hget : (stage.afterwards first disk).session.cache.get?
        ((stage.afterwards first disk).key second) = some found := by
      rw [hkey, ← hfirst]
      exact get?_resolved_of_reply hreply
    obtain ⟨hresolved, hquestions⟩ := resolved_of_hit hget
    exact ⟨congrArg Prod.fst hresolved, hquestions⟩

/-- **Anchoring composes, and spellings share one result.** In a current directory that is
absolute, as those of a system are, texts are made absolute by the laws above; and whatever a
session has done before, path specifiers that stand for one absolute path, from whichever folders,
have one key and are given one result. -/
theorem sharesResult_of_target_eq (cwd : String) (hcwd : Path.isAbsolute cwd = true) :
    Path.Anchors cwd ∧
    ∀ stage : Stage, stage.place.cwd = cwd → ∀ first second here there,
      Specifier.namesLibrary first = false → Specifier.namesLibrary second = false →
      stage.target first here = stage.target second there →
      SharesResult stage (stage.target first here) (stage.request first here)
        (stage.request second there) := by
  refine ⟨Path.anchors_of_isAbsolute hcwd, ?_⟩
  rintro stage rfl first second here there hfirst hsecond htarget
  refine sharesResult_of_keys_eq_file (key_request_of_path hcwd hfirst here) ?_
  rw [htarget]
  exact key_request_of_path hcwd hsecond there

/-- One file, spelled from its folder and, with a slash at the end, from the folder below. -/
theorem sharesResult_of_target_eq_slash :
    let stage := start {} (.alone "a.ts")
    stage.reply (stage.request "./a" none) = .ok "/p/a.ts" ∧
      SharesResult stage "/p/a" (stage.request "./a" none)
        (stage.request "..//./a/" (some "q")) ∧
      Path.absoluteFrom "/p" (Path.absoluteFrom "/p" "q" "..") "./a" =
        Path.absoluteFrom "/p" "q" (Path.join ["..", "./a"]) := by
  intro stage
  obtain ⟨hanchors, hshares⟩ := sharesResult_of_target_eq "/p" (by decide +kernel)
  have hreply : stage.reply (stage.request "./a" none) = .ok "/p/a.ts" := by decide +kernel
  have htarget : stage.target "./a" none = "/p/a" := by decide +kernel
  refine ⟨hreply, ?_, hanchors.absoluteFrom_join _ _ _⟩
  rw [← htarget]
  exact hshares stage rfl "./a" "..//./a/" none (some "q") (by decide +kernel) (by decide +kernel)
    (by decide +kernel)

end ModuleResolution.Stage
