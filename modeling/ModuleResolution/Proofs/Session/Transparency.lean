import ModuleResolution.Proofs.Session.Course

/-! # What is remembered makes no difference

As long as the place stays the same, a session replies as a new session under the options in
force would. The reason is that a key forgets nothing that matters: the key of a library is the
request itself, and of a path only the absolute path is probed, so two requests with one key come
to the same path, if to any (`toOption_eq_of_cacheKey_eq`).
-/

set_option autoImplicit false

namespace ModuleResolution

/-! ## Keys -/

namespace Rules

variable {rules : Rules}

theorem eq_of_cacheKey_eq_library {cwd specifier directory : String} {request : Request}
    (h : rules.cacheKey cwd request = .library specifier directory) :
    request = ⟨specifier, directory⟩ := by
  unfold cacheKey at h
  split at h
  · split at h
    · cases h
    · cases h
      rfl
  · cases h

/-- The path that probing gives does not depend on the request it is probed for. -/
theorem toOption_outcome_resolveFile (place : Place) (request : Request) (path : String) :
    (Search.outcome place (rules.resolveFile request path)).toOption =
      (rules.probed path).find? place.isFile := by
  rw [outcome_resolveFile]
  cases (rules.probed path).find? place.isFile <;> rfl

/-- **A key determines the path.** -/
theorem toOption_eq_of_cacheKey_eq {place : Place} {first second : Request}
    (h : rules.cacheKey place.cwd first = rules.cacheKey place.cwd second) :
    (Search.outcome place (rules.resolve place.cwd first)).toOption =
      (Search.outcome place (rules.resolve place.cwd second)).toOption := by
  unfold resolve
  rw [← h]
  cases hkey : rules.cacheKey place.cwd first with
  | builtin specifier => rfl
  | library specifier directory =>
      have hfirst : first = ⟨specifier, directory⟩ := eq_of_cacheKey_eq_library hkey
      have hsecond : second = ⟨specifier, directory⟩ :=
        eq_of_cacheKey_eq_library (h.symm.trans hkey)
      rw [hfirst, hsecond]
  | file path =>
      show (Search.outcome place (rules.resolveFile first path)).toOption =
        (Search.outcome place (rules.resolveFile second path)).toOption
      rw [toOption_outcome_resolveFile, toOption_outcome_resolveFile]

end Rules

/-! ## Sessions at a place that does not change -/

namespace Stage

open Session (Call Event)

theorem place_run_of_calls (stage : Stage) (calls : List Call) :
    (stage.run (calls.map Event.call)).place = stage.place := by
  induction calls generalizing stage with
  | nil => rfl
  | cons call rest ih =>
      have hstep : (stage.step (.call call)).place = stage.place := by
        cases call <;> rfl
      exact (ih _).trans hstep

/-- A session that has only seen its own place still has after any calls. -/
theorem founded_run_of_calls {stage : Stage} (h : Founded (· = stage.place) stage)
    (calls : List Call) :
    Founded (· = (stage.run (calls.map .call)).place) (stage.run (calls.map .call)) := by
  rw [place_run_of_calls]
  refine founded_run _ rfl ?_ h
  intro other hmem
  simp at hmem

/-- A session that has only seen its own place replies as if it remembered nothing. -/
theorem reply_of_founded {stage : Stage} (h : Founded (· = stage.place) stage)
    (request : Request) : stage.reply request = stage.uncached request := by
  cases hget : stage.session.cache.get? (stage.key request) with
  | none => exact reply_of_miss hget
  | some path =>
      -- the path was found here, for some request with the same key
      obtain ⟨place, other, rfl, hkey, hother⟩ := h _ _ hget
      have hsame : (stage.uncached request).toOption = some path := by
        rw [uncached, ← Rules.toOption_eq_of_cacheKey_eq hkey, hother]
        rfl
      rw [reply, (resolved_of_hit hget).1]
      cases huncached : stage.uncached request with
      | error stop =>
          rw [huncached] at hsame
          cases hsame
      | ok found =>
          rw [huncached] at hsame
          cases hsame
          rfl

/-- **Remembering is not observable.** At a place that does not change, after any calls, the
reply to a request is that of a new session under the options in force, and two requests with
one key are given the same path, if any. -/
theorem reply_run_eq_reply_start (options : Options) (place : Place) (calls : List Call) :
    let stage := (start options place).run (calls.map .call)
    let anew := start (inForce options (calls.map .call)) place
    (∀ specifier directory,
      stage.reply (stage.request specifier directory) =
        anew.reply (anew.request specifier directory)) ∧
    ∀ first second, stage.key first = stage.key second →
      (stage.reply first).toOption = (stage.reply second).toOption := by
  intro stage anew
  have hplace : stage.place = place := place_run_of_calls _ calls
  have hrules : stage.session.rules = anew.session.rules := rules_run options place _
  have hfounded : Founded (· = stage.place) stage :=
    founded_run_of_calls (founded_start _ options place) calls
  refine ⟨?_, ?_⟩
  · intro specifier directory
    have hrequest : stage.request specifier directory = anew.request specifier directory := by
      rw [request, hplace]
      rfl
    rw [reply_of_founded hfounded, uncached, hrules, hplace, hrequest]
    exact (reply_start _ place _).symm
  · intro first second hkey
    rw [reply_of_founded hfounded, reply_of_founded hfounded]
    exact Rules.toOption_eq_of_cacheKey_eq hkey

/-- One file, asked for as seen from its folder and as seen from the folder above, after it was
found, forgotten and found again. -/
theorem reply_run_eq_reply_start_two_spellings :
    let stage := (start {} (.alone "a.ts")).run (List.map .call
      [.resolve "./a" none, .configure { extraExtensions := ["vue"] }, .resolve "./a" none])
    (stage.reply ⟨"./a", "/p"⟩).toOption = some "/p/a.ts" ∧
      stage.key ⟨"./a", "/p"⟩ = stage.key ⟨"./p/a", "/"⟩ ∧
      (stage.reply ⟨"./p/a", "/"⟩).toOption = some "/p/a.ts" := by
  intro stage
  obtain ⟨hanew, hspellings⟩ := reply_run_eq_reply_start {} (.alone "a.ts")
    [.resolve "./a" none, .configure { extraExtensions := ["vue"] }, .resolve "./a" none]
  have hrequest : stage.request "./a" none = ⟨"./a", "/p"⟩ := by decide +kernel
  have hfound : (stage.reply ⟨"./a", "/p"⟩).toOption = some "/p/a.ts" := by
    rw [← hrequest, hanew]
    decide +kernel
  have hkey : stage.key ⟨"./a", "/p"⟩ = stage.key ⟨"./p/a", "/"⟩ := by decide +kernel
  exact ⟨hfound, hkey, (hspellings _ _ hkey).symm.trans hfound⟩

end Stage

end ModuleResolution
