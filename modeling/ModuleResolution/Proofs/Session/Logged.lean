import ModuleResolution.Logging.Journal
import ModuleResolution.Proofs.Session.Contents

/-! # Lookups that are logged

The notes of a lookup may be logged on the disk that it asks. A journal stays out of some lookups if
no answer that they get changes when their notes are logged (`Journal.StaysOutOf`). Then a lookup
that is followed comes to the same as without a journal (`Journal.run_follow`). A journal without
files stays out of every lookup, and one that asks for more than debugging out of every request of a
session.
-/

set_option autoImplicit false

namespace ModuleResolution

/-- The question has the same answer at two places. -/
def Question.SameAt (place other : Place) : Question → Prop
  | .kind path => place.kind? path = other.kind? path
  | .text path => place.readText path = other.readText path
  | .shape path => place.shapeAt path = other.shapeAt path

namespace Journal

/-- The places that are left when some notes are logged, in any order and as often as may be. -/
inductive Leaves (journal : Journal) (moment : String) (place : Place) (notes : List Note) :
    Place → Prop
  | start : Leaves journal moment place notes place
  | log {now : Place} {note : Note} (h : Leaves journal moment place notes now)
    (hnote : note ∈ notes) :
    Leaves journal moment place notes ((journal.logNote note).run moment now).2

/-- Logging the notes of some lookups changes no answer that one of them gets. -/
def StaysOutOf {α : Type} (journal : Journal) (moment : String) (place : Place)
    (lookups : List (Lookup α)) : Prop :=
  ∀ now, journal.Leaves moment place (lookups.flatMap (·.notes place)) now →
    ∀ lookup ∈ lookups, ∀ question ∈ lookup.questions place, question.SameAt place now

variable {journal : Journal} {moment : String} {place : Place} {α : Type}

/-- A journal that logs nothing of some lookups stays out of them. -/
theorem staysOutOf_of_silent {lookups : List (Lookup α)}
    (h : ∀ note ∈ lookups.flatMap (·.notes place), ∀ now,
      ((journal.logNote note).run moment now).2 = now) :
    journal.StaysOutOf moment place lookups := by
  intro now hnow lookup _ question _
  have hplace : now = place := by
    induction hnow with
    | start => rfl
    | log _ hnote ih => rw [h _ hnote, ih]
  subst hplace
  cases question <;> rfl

/-- A journal without files stays out of all lookups. -/
theorem staysOutOf_of_sinks (h : journal.sinks = []) (lookups : List (Lookup α)) :
    journal.StaysOutOf moment place lookups := by
  refine staysOutOf_of_silent fun note _ now => ?_
  unfold logNote log
  split
  · rw [h, Action.run]
    split <;> rfl
  · rfl

/-- A journal that asks for more than debugging stays out of lookups that take notes for debugging
only. -/
theorem staysOutOf_of_threshold (h : Level.debug.passes journal.threshold = false)
    {lookups : List (Lookup α)}
    (hlevel : ∀ lookup ∈ lookups, ∀ note ∈ lookup.notes place, note.level = .debug) :
    journal.StaysOutOf moment place lookups := by
  refine staysOutOf_of_silent fun note hnote now => ?_
  obtain ⟨lookup, hlookup, hnote⟩ := List.mem_flatMap.mp hnote
  have hsilent : journal.logNote note = .done () := by
    unfold logNote log
    rw [if_neg]
    show ¬ note.level.passes journal.threshold = true
    rw [hlevel lookup hlookup note hnote, h]
    exact Bool.false_ne_true
  rw [hsilent]
  rfl

/-- **A lookup that is followed** comes to the same as without a journal, if logging its notes
changes no answer that it gets. -/
theorem run_follow {lookup : Lookup α} {notes : List Note} {questions : List Question}
    (hsame : ∀ now, journal.Leaves moment place notes now →
      ∀ question ∈ questions, question.SameAt place now)
    (hnotes : lookup.notes place ⊆ notes) (hquestions : lookup.questions place ⊆ questions)
    {now : Place} (hnow : journal.Leaves moment place notes now) :
    ((journal.follow lookup).run moment now).1 = lookup.outcome place ∧
      journal.Leaves moment place notes ((journal.follow lookup).run moment now).2 := by
  -- the place changes with each note, so it is left general
  induction lookup generalizing now with
  | done value => exact ⟨rfl, hnow⟩
  | note line rest ih =>
      obtain ⟨hline, hrest⟩ := List.cons_subset.mp hnotes
      have hfollow : (journal.follow (.note line rest)).run moment now =
          (journal.follow rest).run moment ((journal.logNote line).run moment now).2 := by
        unfold follow
        exact Action.run_bind moment _ _ now
      rw [hfollow]
      exact ih hrest hquestions (.log hnow hline)
  | kind path next ih =>
      obtain ⟨hpath, hrest⟩ := List.cons_subset.mp hquestions
      have hkind : place.kind? path = now.kind? path := hsame now hnow _ hpath
      have hfollow : (journal.follow (.kind path next)).run moment now =
          (journal.follow (next (place.kind? path))).run moment now := by
        rw [hkind]
        rfl
      rw [hfollow]
      exact ih _ hnotes hrest hnow
  | text path next ih =>
      obtain ⟨hpath, hrest⟩ := List.cons_subset.mp hquestions
      have htext : place.readText path = now.readText path := hsame now hnow _ hpath
      have hfollow : (journal.follow (.text path next)).run moment now =
          (journal.follow (next (place.readText path))).run moment now := by
        rw [htext]
        rfl
      rw [hfollow]
      exact ih _ hnotes hrest hnow
  | shape path next ih =>
      obtain ⟨hpath, hrest⟩ := List.cons_subset.mp hquestions
      have hshape : place.shapeAt path = now.shapeAt path := hsame now hnow _ hpath
      have hfollow : (journal.follow (.shape path next)).run moment now =
          (journal.follow (next (place.shapeAt path))).run moment now := by
        rw [hshape]
        rfl
      rw [hfollow]
      exact ih _ hnotes hrest hnow

end Journal

/-! ## Requests -/

namespace Session

variable (place : Place)

/-- What a request that is not remembered tells. -/
theorem notes_resolveAnew (session : Session) (cwd : String) (request : Request) (key : CacheKey) :
    (session.resolveAnew cwd request key).notes place =
      (session.rules.resolveKey cwd request key).run.notes place ++
        match Search.outcome place (session.rules.resolveKey cwd request key) with
        | .error _ => []
        | .ok path => [.resolved request.specifier path key.kind] := by
  rw [resolveAnew, Lookup.notes_bind]
  unfold Search.outcome
  cases (session.rules.resolveKey cwd request key).run.outcome place <;> rfl

/-- All that a request tells is for debugging. -/
theorem level_of_mem_notes {place : Place} (hcwd : Path.isAbsolute place.cwd = true)
    (session : Session) (request : Request) {note : Note}
    (h : note ∈ (session.resolve place.cwd request).notes place) : note.level = .debug :=
  (session.reads_resolve hcwd (fun _ _ => rfl : place.ListsAs place) request).level_of_mem_notes h

/-- **A session tells and asks no more than a new one** under the same rules. -/
theorem resolve_subset {options : Options} {session : Session}
    (hrules : session.rules = options.rules) (cwd : String) (request : Request) :
    let anew := (start options).resolve cwd request
    (session.resolve cwd request).notes place ⊆ anew.notes place ∧
      (session.resolve cwd request).questions place ⊆ anew.questions place := by
  intro anew
  have hanew : anew =
      (start options).resolveAnew cwd request (session.rules.cacheKey cwd request) := by
    rw [hrules]
    simp only [anew, resolve, start, Cache.get?_empty]
  have hsame : (start options).rules = session.rules := hrules.symm
  rw [hanew, notes_resolveAnew, questions_resolveAnew, hsame]
  unfold resolve
  dsimp only
  split
  · -- a path that is remembered is given without a word
    exact ⟨List.nil_subset _, List.nil_subset _⟩
  · rw [notes_resolveAnew, questions_resolveAnew]
    exact ⟨List.Subset.refl _, List.Subset.refl _⟩

end Session

end ModuleResolution
