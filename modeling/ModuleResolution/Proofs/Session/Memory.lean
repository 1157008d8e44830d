import Mathlib.Data.Finset.Card
import Mathlib.Data.Finset.Dedup
import ModuleResolution.Proofs.Session.Course

/-! # What a session remembers

A session remembers the replies it gave since it was last configured, under their keys: the first
one for each key and nothing else. `history` writes the replies down, call by call, without
looking at what is stored; the invariant `Remembers` says that the stored paths are the first ones
in it, one for each key. It is preserved by each step (`remembers_step`), whatever happens to the
disk between the calls.
-/

set_option autoImplicit false

namespace ModuleResolution

/-! ## Association lists -/

/-- What stands behind an entry with the same key is never found. -/
theorem lookup_append_of_lookup_eq_some {κ α : Type} [DecidableEq κ] {past : List (κ × α)}
    {key : κ} {value : α} (h : past.lookup key = some value) (later : α) (other : κ) :
    (past ++ [(key, later)]).lookup other = past.lookup other := by
  rw [List.lookup_append]
  by_cases hkey : other = key
  · rw [hkey, h]
    rfl
  · have hlater : [(key, later)].lookup other = none := by
      simpa using hkey
    rw [hlater, Option.or_none]

theorem lookup_eq_none_iff_not_mem_keys {κ α : Type} [DecidableEq κ] {past : List (κ × α)}
    {key : κ} : past.lookup key = none ↔ key ∉ past.map Prod.fst := by
  rw [List.lookup_eq_none_iff, List.mem_map]
  constructor
  · rintro h ⟨entry, hmem, rfl⟩
    simpa using h entry hmem
  · intro h entry hmem
    have hne : key ≠ entry.1 := fun heq => h ⟨entry, hmem, heq.symm⟩
    simpa using hne

namespace Cache

variable {κ : Type} [DecidableEq κ]

theorem entries_insert_of_miss {cache : Cache κ} {key : κ} (h : cache.get? key = none)
    (path : String) : (cache.insert key path).entries = cache.entries ++ [(key, path)] := by
  have hcontains : cache.contains key = false := by
    rw [contains, h]
    rfl
  simp [insert, hcontains]

end Cache

/-! ## Builtin keys -/

namespace Rules

variable {rules : Rules} {cwd : String} {request : Request}

theorem cacheKey_of_kind_eq_builtin (h : (rules.cacheKey cwd request).kind = .builtin) :
    rules.cacheKey cwd request = .builtin request.specifier := by
  unfold cacheKey at h ⊢
  split at h
  · next hlibrary =>
      split at h
      · next hbuiltin => rw [if_pos hlibrary, if_pos hbuiltin]
      · cases h
  · cases h

theorem resolve_of_cacheKey_eq_builtin {specifier : String}
    (h : rules.cacheKey cwd request = .builtin specifier) :
    rules.resolve cwd request = return specifier := by
  rw [resolve, h]
  rfl

end Rules

namespace Stage

open Session (Call Event)

/-! ## The history of a session -/

/-- The history after an event: a path that was replied is added under its key, and new options
end the history. -/
def record (stage : Stage) (past : List (CacheKey × String)) : Event → List (CacheKey × String)
  | .call (.resolve specifier directory) =>
    let request := stage.request specifier directory
    match stage.reply request with
    | .ok path => past ++ [(stage.key request, path)]
    | .error _ => past
  | .call (.configure _) => []
  | .change _ => past

/-- The paths that were replied since the last call to `configure`, each under the key of its
request, in order. -/
def history (stage : Stage) (past : List (CacheKey × String)) :
    List Event → List (CacheKey × String)
  | [] => past
  | event :: rest => (stage.step event).history (stage.record past event) rest

/-- The stored paths are the first ones in the history, one for each key. -/
structure Remembers (stage : Stage) (past : List (CacheKey × String)) : Prop where
  get?_eq : ∀ key, stage.session.cache.get? key = past.lookup key
  size_eq : stage.session.cache.size = (past.map Prod.fst).toFinset.card

theorem remembers_start (options : Options) (place : Place) :
    Remembers (start options place) [] :=
  ⟨fun _ => rfl, rfl⟩

/-! ## One step -/

variable {stage : Stage} {past : List (CacheKey × String)}

/-- A reply from memory only repeats what the history holds. -/
theorem Remembers.append_of_hit {key : CacheKey} {path : String} (h : Remembers stage past)
    (hget : stage.session.cache.get? key = some path) :
    Remembers stage (past ++ [(key, path)]) := by
  have hlookup : past.lookup key = some path := (h.get?_eq key).symm.trans hget
  refine ⟨?_, ?_⟩
  · intro other
    rw [lookup_append_of_lookup_eq_some hlookup, h.get?_eq]
  · -- the history has one entry more, but no key more
    have hmem : key ∈ past.map Prod.fst := by
      by_contra hnot
      rw [← lookup_eq_none_iff_not_mem_keys, hlookup] at hnot
      cases hnot
    have hkeys : ((past ++ [(key, path)]).map Prod.fst).toFinset =
        (past.map Prod.fst).toFinset := by
      ext other
      simp only [List.map_append, List.map_cons, List.map_nil, List.mem_toFinset,
        List.mem_append, List.mem_singleton]
      constructor
      · rintro (hother | rfl)
        · exact hother
        · exact hmem
      · exact Or.inl
    rw [hkeys, h.size_eq]

/-- A path stored under a new key is added to both. -/
theorem Remembers.append_of_miss {key : CacheKey} (h : Remembers stage past)
    (hget : stage.session.cache.get? key = none) (path : String) :
    Remembers { stage with session := stage.remember key path } (past ++ [(key, path)]) := by
  have hentries : (stage.remember key path).cache.entries =
      stage.session.cache.entries ++ [(key, path)] :=
    Cache.entries_insert_of_miss hget path
  refine ⟨?_, ?_⟩
  · intro other
    have hsame : stage.session.cache.entries.lookup other = past.lookup other := h.get?_eq other
    show (stage.remember key path).cache.entries.lookup other = _
    rw [hentries, List.lookup_append, List.lookup_append, hsame]
  · have hnot : key ∉ (past.map Prod.fst).toFinset := by
      rw [List.mem_toFinset, ← lookup_eq_none_iff_not_mem_keys, ← h.get?_eq]
      exact hget
    have hkeys : ((past ++ [(key, path)]).map Prod.fst).toFinset =
        Insert.insert key (past.map Prod.fst).toFinset := by
      ext other
      simp
    show (stage.remember key path).cache.entries.length = _
    rw [hentries, List.length_append, hkeys, Finset.card_insert_of_notMem hnot, ← h.size_eq]
    rfl

theorem remembers_step (h : Remembers stage past) (event : Event) :
    Remembers (stage.step event) (stage.record past event) := by
  rcases event with (⟨specifier, directory⟩ | options) | place
  · show Remembers { stage with session := (stage.resolved _).2 }
      (match (stage.resolved (stage.request specifier directory)).1 with
        | .ok path => past ++ [(stage.key (stage.request specifier directory), path)]
        | .error _ => past)
    rcases stage.resolve_cases (stage.request specifier directory) with
      ⟨path, hget, hresolved⟩ | ⟨stop, _, _, hresolved⟩ | ⟨path, hget, _, hresolved⟩
    · rw [hresolved]
      exact h.append_of_hit hget
    · rw [hresolved]
      exact h
    · rw [hresolved]
      exact h.append_of_miss hget path
  · exact remembers_start options stage.place
  · exact ⟨h.get?_eq, h.size_eq⟩

theorem remembers_run (h : Remembers stage past) (events : List Event) :
    Remembers (stage.run events) (stage.history past events) := by
  induction events generalizing stage past with
  | nil => exact h
  | cons event rest ih => exact ih (remembers_step h event)

/-! ## Builtins -/

/-- A builtin is given back as it is, and the disk is not asked. -/
theorem reply_of_builtin (h : Founded (fun _ => True) stage) {request : Request}
    (hkind : (stage.key request).kind = .builtin) :
    stage.reply request = .ok request.specifier ∧ stage.questions request = [] := by
  have hkey : stage.key request = .builtin request.specifier :=
    Rules.cacheKey_of_kind_eq_builtin hkind
  cases hget : stage.session.cache.get? (stage.key request) with
  | some path =>
      obtain ⟨hresolved, hquestions⟩ := resolved_of_hit hget
      obtain ⟨place, other, -, hother, hpath⟩ := h _ _ hget
      rw [hkey] at hother
      rw [Rules.resolve_of_cacheKey_eq_builtin hother] at hpath
      refine ⟨?_, hquestions⟩
      rw [reply, hresolved]
      exact hpath.symm
  | none =>
      have hresolve := Rules.resolve_of_cacheKey_eq_builtin hkey
      refine ⟨?_, ?_⟩
      · rw [reply_of_miss hget, uncached, hresolve]
        rfl
      · rw [questions_of_miss hget, hresolve]
        rfl

/-! ## Every step of a session -/

/-- **Only the first path that was found counts.** After any events, a request whose key has a
path in the history is given the first one, and a builtin is given back, without a question to the
disk. Any other request is resolved anew on the disk as it is now, and when that fails, the
session is as before. As many paths are stored as there are keys in the history. -/
theorem reply_run_eq_first_or_uncached (options : Options) (place : Place)
    (events : List Event) :
    let stage := (start options place).run events
    let past := (start options place).history [] events
    (∀ specifier directory,
      let request := stage.request specifier directory
      (∀ path, past.lookup (stage.key request) = some path →
        stage.reply request = .ok path ∧ stage.questions request = []) ∧
      ((stage.key request).kind = .builtin →
        stage.reply request = .ok specifier ∧ stage.questions request = []) ∧
      (past.lookup (stage.key request) = none →
        let search := (inForce options events).rules.resolve stage.place.cwd request
        stage.reply request = search.outcome stage.place ∧
        stage.questions request = search.run.questions stage.place) ∧
      (∀ stop, stage.reply request = .error stop →
        (stage.step (.call (.resolve specifier directory))).session = stage.session)) ∧
    stage.session.cache.size = (past.map Prod.fst).toFinset.card := by
  intro stage past
  have hmemory : Remembers stage past := remembers_run (remembers_start options place) events
  have hrules : stage.session.rules = (inForce options events).rules :=
    rules_run options place events
  refine ⟨?_, hmemory.size_eq⟩
  -- the cache is what the history says it is: a hit, a builtin, a miss, a failure
  intro specifier directory request
  refine ⟨?_, ?_, ?_, ?_⟩
  · intro path hpast
    have hget := (hmemory.get?_eq _).trans hpast
    obtain ⟨hresolved, hquestions⟩ := resolved_of_hit hget
    exact ⟨congrArg Prod.fst hresolved, hquestions⟩
  · intro hkind
    have hfounded : Founded (fun _ => True) stage :=
      founded_run events trivial (fun _ _ => trivial) (founded_start _ options place)
    exact reply_of_builtin hfounded hkind
  · intro hpast search
    have hget := (hmemory.get?_eq _).trans hpast
    refine ⟨?_, ?_⟩
    · rw [reply_of_miss hget, uncached, hrules]
    · rw [questions_of_miss hget, hrules]
  · intro stop hreply
    show (stage.resolved request).2 = stage.session
    rw [reply] at hreply
    rcases stage.resolve_cases request with
      ⟨path, _, hresolved⟩ | ⟨_, _, _, hresolved⟩ | ⟨path, _, _, hresolved⟩
    · rw [hresolved]
    · rw [hresolved]
    · rw [hresolved] at hreply
      cases hreply

/-- A file that was found and then deleted, a builtin, and a file that was never there. -/
theorem reply_run_eq_first_or_uncached_deleted :
    let stage := (start {} (.alone "a.ts")).run
      [.call (.resolve "./a" none), .change ⟨.subfolder "p" .empty .empty, "/p"⟩]
    (stage.reply ⟨"./a", "/p"⟩ = .ok "/p/a.ts" ∧ stage.questions ⟨"./a", "/p"⟩ = []) ∧
    (stage.reply ⟨"fs", "/p"⟩ = .ok "fs" ∧ stage.questions ⟨"fs", "/p"⟩ = []) ∧
    (stage.reply ⟨"./b", "/p"⟩ =
        .error (.failed ⟨⟨"./b", "/p"⟩, .noFile "/p/b"⟩) ∧
      (stage.step (.call (.resolve "./b" none))).session = stage.session) ∧
    stage.session.cache.size = 1 := by
  intro stage
  obtain ⟨hreplies, hsize⟩ := reply_run_eq_first_or_uncached {} (.alone "a.ts")
    [.call (.resolve "./a" none), .change ⟨.subfolder "p" .empty .empty, "/p"⟩]
  obtain ⟨hremembered, -, -, -⟩ := hreplies "./a" none
  obtain ⟨-, hbuiltin, -, -⟩ := hreplies "fs" none
  obtain ⟨-, -, hanew, hfailed⟩ := hreplies "./b" none
  have hmissing : stage.reply ⟨"./b", "/p"⟩ = .error (.failed ⟨⟨"./b", "/p"⟩, .noFile "/p/b"⟩) :=
    (hanew (by decide +kernel)).1.trans (by decide +kernel)
  refine ⟨?_, ?_, ⟨hmissing, hfailed _ hmissing⟩, ?_⟩
  · exact hremembered "/p/a.ts" (by decide +kernel)
  · exact hbuiltin (by decide +kernel)
  · exact hsize.trans (by decide +kernel)

end Stage

end ModuleResolution
