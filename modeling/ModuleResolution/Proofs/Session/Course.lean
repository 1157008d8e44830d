import ModuleResolution.Proofs.Resolve.Retry

/-! # The course of a session

A session is used at a place that may change under it: between the calls to `resolve` and
`configure` the disk and the current directory can become any others. A `Stage` is a session and
the place it is at, an `Event` is a call or a change of the place, and `run` follows a list of
events.

What one call to `resolve` can do is said once (`resolve_cases`): it replies from memory, or it
fails and remembers nothing, or it remembers what it found. From this comes the invariant that
all statements about remembered paths rest on (`founded_run`): each of them is what resolving some
request with its key came to, under the rules in force, at one of the places on the way.
-/

set_option autoImplicit false

namespace ModuleResolution

/-! ## Stages and events -/

inductive Session.Call where
  | resolve (specifier : String) (directory : Option String)
  | configure (options : Options)

/-- What happens in the course of a session. -/
inductive Session.Event where
  | call (call : Session.Call)
  | change (place : Place)

/-- A session and the place it is used at. -/
structure Stage where
  place : Place
  session : Session

/-- What a request that is not remembered asks. -/
theorem Session.questions_resolveAnew (place : Place) (session : Session) (cwd : String)
    (request : Request) (key : CacheKey) :
    (session.resolveAnew cwd request key).questions place =
      (session.rules.resolveKey cwd request key).run.questions place := by
  rw [resolveAnew, Lookup.questions_bind]
  cases (session.rules.resolveKey cwd request key).run.outcome place <;> exact List.append_nil _

namespace Stage

open Session (Call Event)

def start (options : Options) (place : Place) : Stage := ⟨place, .start options⟩

/-- The request for a specifier as seen from a folder, by default the current one. -/
def request (stage : Stage) (specifier : String) (directory : Option String) : Request :=
  .from stage.place.cwd specifier directory

def key (stage : Stage) (request : Request) : CacheKey :=
  stage.session.rules.cacheKey stage.place.cwd request

/-- What resolving a request comes to: the reply and the session after it. -/
def resolved (stage : Stage) (request : Request) : Except Stop String × Session :=
  (stage.session.resolve stage.place.cwd request).outcome stage.place

def reply (stage : Stage) (request : Request) : Except Stop String := (stage.resolved request).1

/-- What resolving a request asks the disk. -/
def questions (stage : Stage) (request : Request) : List Question :=
  (stage.session.resolve stage.place.cwd request).questions stage.place

/-- What resolving a request comes to when nothing is remembered. -/
def uncached (stage : Stage) (request : Request) : Except Stop String :=
  Search.outcome stage.place (stage.session.rules.resolve stage.place.cwd request)

def step (stage : Stage) : Event → Stage
  | .call (.resolve specifier directory) =>
    { stage with session := (stage.resolved (stage.request specifier directory)).2 }
  | .call (.configure options) => { stage with session := stage.session.configure options }
  | .change place => { stage with place }

def run (stage : Stage) (events : List Event) : Stage := events.foldl step stage

/-- The options in force after a list of events. -/
def inForce : Options → List Event → Options
  | options, [] => options
  | _, .call (.configure options) :: rest => inForce options rest
  | options, _ :: rest => inForce options rest

/-! ## One call -/

/-- The same stage with a path remembered. -/
def remember (stage : Stage) (key : CacheKey) (path : String) : Session :=
  { stage.session with cache := stage.session.cache.insert key path }

theorem resolved_of_hit {stage : Stage} {request : Request} {path : String}
    (h : stage.session.cache.get? (stage.key request) = some path) :
    stage.resolved request = (.ok path, stage.session) ∧ stage.questions request = [] := by
  unfold key at h
  simp only [resolved, questions, Session.resolve, h]
  exact ⟨rfl, rfl⟩

theorem resolve_of_miss {stage : Stage} {request : Request}
    (h : stage.session.cache.get? (stage.key request) = none) :
    stage.session.resolve stage.place.cwd request =
      stage.session.resolveAnew stage.place.cwd request (stage.key request) := by
  unfold key at h ⊢
  simp only [Session.resolve, h]

theorem resolved_of_miss {stage : Stage} {request : Request}
    (h : stage.session.cache.get? (stage.key request) = none) :
    stage.resolved request =
      match stage.uncached request with
      | .error stop => (.error stop, stage.session)
      | .ok path => (.ok path, stage.remember (stage.key request) path) := by
  have huncached : stage.uncached request = (stage.session.rules.resolveKey stage.place.cwd
      request (stage.key request)).run.outcome stage.place := rfl
  rw [resolved, resolve_of_miss h, Session.resolveAnew, Lookup.outcome_bind, ← huncached]
  cases stage.uncached request with
  | error stop => rfl
  | ok path =>
      -- nothing is stored under the key, so the reply is the path that was found
      show (Except.ok ((stage.session.cache.get? _).getD path), _) = _
      rw [h]
      rfl

theorem reply_of_miss {stage : Stage} {request : Request}
    (h : stage.session.cache.get? (stage.key request) = none) :
    stage.reply request = stage.uncached request := by
  rw [reply, resolved_of_miss h]
  cases stage.uncached request <;> rfl

/-- **What one call to `resolve` can do.** -/
theorem resolve_cases (stage : Stage) (request : Request) :
    (∃ path, stage.session.cache.get? (stage.key request) = some path ∧
      stage.resolved request = (.ok path, stage.session)) ∨
    (∃ stop, stage.session.cache.get? (stage.key request) = none ∧
      stage.uncached request = .error stop ∧
      stage.resolved request = (.error stop, stage.session)) ∨
    (∃ path, stage.session.cache.get? (stage.key request) = none ∧
      stage.uncached request = .ok path ∧
      stage.resolved request = (.ok path, stage.remember (stage.key request) path)) := by
  cases hget : stage.session.cache.get? (stage.key request) with
  | some path => exact Or.inl ⟨path, rfl, (resolved_of_hit hget).1⟩
  | none =>
      have hresolved := resolved_of_miss hget
      cases huncached : stage.uncached request with
      | error stop =>
          rw [huncached] at hresolved
          exact Or.inr (Or.inl ⟨stop, rfl, rfl, hresolved⟩)
      | ok path =>
          rw [huncached] at hresolved
          exact Or.inr (Or.inr ⟨path, rfl, rfl, hresolved⟩)

/-- A request that is not remembered asks the disk what resolving it asks. -/
theorem questions_of_miss {stage : Stage} {request : Request}
    (h : stage.session.cache.get? (stage.key request) = none) :
    stage.questions request =
      (stage.session.rules.resolve stage.place.cwd request).run.questions stage.place := by
  rw [questions, resolve_of_miss h, Session.questions_resolveAnew]
  rfl

/-- A new session resolves anew. -/
theorem reply_start (options : Options) (place : Place) (request : Request) :
    (start options place).reply request =
      Search.outcome place (options.rules.resolve place.cwd request) :=
  reply_of_miss (Cache.get?_empty _)

/-! ## The rules in force -/

theorem rules_resolved (stage : Stage) (request : Request) :
    (stage.resolved request).2.rules = stage.session.rules := by
  rcases stage.resolve_cases request with
    ⟨path, _, hresolved⟩ | ⟨stop, _, _, hresolved⟩ | ⟨path, _, _, hresolved⟩ <;>
  rw [hresolved]
  rfl

theorem rules_run_of_eq {stage : Stage} {options : Options}
    (h : stage.session.rules = options.rules) (events : List Event) :
    (stage.run events).session.rules = (inForce options events).rules := by
  induction events generalizing stage options with
  | nil => exact h
  | cons event rest ih =>
      rcases event with (⟨specifier, directory⟩ | changed) | place
      · exact ih ((rules_resolved stage _).trans h)
      · exact ih rfl
      · exact ih h

/-- The rules of a session are those of the options it was configured with last. -/
theorem rules_run (options : Options) (place : Place) (events : List Event) :
    ((start options place).run events).session.rules = (inForce options events).rules :=
  rules_run_of_eq rfl events

/-- Requests leave the rules as they are. -/
theorem rules_run_of_resolves (stage : Stage) (requests : List (String × Option String)) :
    (stage.run ((requests.map fun r => Call.resolve r.1 r.2).map .call)).session.rules =
      stage.session.rules := by
  induction requests generalizing stage with
  | nil => rfl
  | cons request rest ih => exact (ih _).trans (rules_resolved stage _)

/-! ## Where the remembered paths come from -/

/-- Each remembered path is what resolving a request with its key came to, under the rules in
force, at one of the given places. -/
def Founded (places : Place → Prop) (stage : Stage) : Prop :=
  ∀ key path, stage.session.cache.get? key = some path →
    ∃ place request, places place ∧ stage.session.rules.cacheKey place.cwd request = key ∧
      Search.outcome place (stage.session.rules.resolve place.cwd request) = .ok path

theorem founded_start (places : Place → Prop) (options : Options) (place : Place) :
    Founded places (start options place) := by
  intro key path h
  simp [start, Session.start] at h

theorem founded_step {places : Place → Prop} {stage : Stage} (hplace : places stage.place)
    (h : Founded places stage) (event : Event) : Founded places (stage.step event) := by
  rcases event with (⟨specifier, directory⟩ | options) | place
  · show Founded places { stage with session := (stage.resolved _).2 }
    rcases stage.resolve_cases (stage.request specifier directory) with
      ⟨path, _, hresolved⟩ | ⟨stop, _, _, hresolved⟩ | ⟨path, hmiss, hfound, hresolved⟩
    · rw [hresolved]
      exact h
    · rw [hresolved]
      exact h
    · rw [hresolved]
      intro key other hget
      by_cases hkey : key = stage.key (stage.request specifier directory)
      · -- the entry that this call adds
        subst hkey
        have hsame : path = other := by
          simpa [remember, Cache.get?_insert_self, hmiss] using hget
        exact ⟨stage.place, _, hplace, rfl, hsame ▸ hfound⟩
      · refine h key other ?_
        rwa [remember, Cache.get?_insert_of_ne hkey] at hget
  · exact founded_start places options stage.place
  · exact h

/-- **Whatever a session remembers was found on its way.** -/
theorem founded_run {places : Place → Prop} {stage : Stage} (events : List Event)
    (hplace : places stage.place) (hchange : ∀ place, Event.change place ∈ events → places place)
    (h : Founded places stage) : Founded places (stage.run events) := by
  induction events generalizing stage with
  | nil => exact h
  | cons event rest ih =>
      refine ih ?_ (fun place hmem => hchange place (List.mem_cons_of_mem _ hmem))
        (founded_step hplace h event)
      rcases event with (⟨specifier, directory⟩ | options) | place
      · exact hplace
      · exact hplace
      · exact hchange place List.mem_cons_self

end Stage

end ModuleResolution
