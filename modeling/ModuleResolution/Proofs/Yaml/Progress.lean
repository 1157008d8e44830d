import ModuleResolution.Yaml.Failure

/-! # Steps that keep states sound

Reading goes on by steps that change a state and may fail. A step is known by what it makes of a
sound state that is at least as far as some start: a sound state that is further still, and a result
that is good there (`Progress.Advances`). Steps in a row are known by the steps (`Advances.bind`).
-/

set_option autoImplicit false

namespace ModuleResolution.Yaml

variable {σ α β : Type}

/-- Which states are sound, and which states are further than others. -/
structure Progress (σ : Type) where
  isSound : σ → Prop
  le : σ → σ → Prop
  refl (state : σ) : le state state
  trans {first second third : σ} (h : le first second) (h' : le second third) : le first third

namespace Progress

variable {progress : Progress σ} {start : σ}

/-- From a sound state that is no less far than the start, a step leads to a sound state further on
with a result that is good there, unless it fails. -/
def Advances (progress : Progress σ) (start : σ) (step : StateT σ Reading α)
    (good : σ → α → Prop) : Prop :=
  ∀ state, progress.le start state → progress.isSound state →
    ∀ value after, step.run state = .ok (value, after) →
      progress.isSound after ∧ progress.le state after ∧ good after value

theorem advances_pure {value : α} {good : σ → α → Prop}
    (h : ∀ state, progress.le start state → progress.isSound state → good state value) :
    progress.Advances start (pure value) good := by
  intro state hle hsound other after hrun
  cases hrun
  exact ⟨hsound, progress.refl state, h state hle hsound⟩

theorem advances_throw (failure : Failure) {good : σ → α → Prop} :
    progress.Advances start (throw failure) good := by
  intro state hle hsound value after hrun
  cases hrun

/-- Looking at the state tells what is true of all states that are sound and no less far. -/
theorem advances_get (good : σ → σ → Prop)
    (h : ∀ state, progress.le start state → progress.isSound state → good state state) :
    progress.Advances start get good := by
  intro state hle hsound value after hrun
  cases hrun
  exact ⟨hsound, progress.refl state, h state hle hsound⟩

theorem advances_modify {change : σ → σ} {good : σ → PUnit → Prop}
    (h : ∀ state, progress.le start state → progress.isSound state →
      progress.isSound (change state) ∧ progress.le state (change state) ∧
        good (change state) ⟨⟩) :
    progress.Advances start (modify change) good := by
  intro state hle hsound value after hrun
  cases hrun
  exact h state hle hsound

/-- **Steps in a row**: the second starts from where the first has led. -/
theorem Advances.bind {step : StateT σ Reading α} {next : α → StateT σ Reading β}
    {good : σ → α → Prop} {goal : σ → β → Prop} (hstep : progress.Advances start step good)
    (hnext : ∀ state value, progress.le start state → progress.isSound state →
      good state value → progress.Advances state (next value) goal) :
    progress.Advances start (step >>= next) goal := by
  intro state hle hsound value after hrun
  rw [StateT.run_bind] at hrun
  cases hfirst : step.run state with
  | error failure =>
      rw [hfirst] at hrun
      cases hrun
  | ok result =>
      obtain ⟨found, middle⟩ := result
      rw [hfirst] at hrun
      obtain ⟨hmiddle, hfar, hfound⟩ := hstep state hle hsound found middle hfirst
      obtain ⟨hafter, hfurther, hgoal⟩ := hnext middle found (progress.trans hle hfar) hmiddle
        hfound middle (progress.refl middle) hmiddle value after hrun
      exact ⟨hafter, progress.trans hfar hfurther, hgoal⟩

/-- A step that is known from a start is known from what is further on. -/
theorem Advances.later {step : StateT σ Reading α} {good : σ → α → Prop} {further : σ}
    (hstep : progress.Advances start step good) (hle : progress.le start further) :
    progress.Advances further step good :=
  fun state hfurther => hstep state (progress.trans hle hfurther)

/-- What is good stays good further on, so all results of steps for the items of a list are good in
the end. -/
theorem advances_mapM {items : List α} {step : α → StateT σ Reading β} {good : σ → β → Prop}
    (hgood : ∀ state state' value, progress.le state state' → good state value →
      good state' value)
    (hstep : ∀ item ∈ items, progress.Advances start (step item) good) :
    progress.Advances start (items.mapM step) fun state values =>
      ∀ value ∈ values, good state value := by
  induction items generalizing start with
  | nil =>
      rw [List.mapM_nil]
      refine advances_pure fun state _ _ value hvalue => ?_
      cases hvalue
  | cons item rest ih =>
      rw [List.mapM_cons]
      refine (hstep item List.mem_cons_self).bind fun state value hle hsound hvalue => ?_
      refine (ih fun other hother =>
        (hstep other (List.mem_cons_of_mem _ hother)).later hle).bind
          fun state' values hle' hsound' hvalues => ?_
      refine advances_pure fun state'' hle'' _ other hother => ?_
      rcases List.mem_cons.mp hother with rfl | hother
      · exact hgood state state'' _ (progress.trans hle' hle'') hvalue
      · exact hgood state' state'' other hle'' (hvalues other hother)

theorem advances_forM {items : List α} {step : α → StateT σ Reading PUnit}
    (hstep : ∀ item ∈ items, progress.Advances start (step item) fun _ _ => True) :
    progress.Advances start (items.forM step) fun _ _ => True := by
  induction items generalizing start with
  | nil => exact advances_pure fun _ _ _ => trivial
  | cons item rest ih =>
      refine (hstep item List.mem_cons_self).bind fun state _ hle _ _ => ?_
      exact ih fun other hother => (hstep other (List.mem_cons_of_mem _ hother)).later hle

/-- A value that is good stays good as the items of a list are taken into it one by one. -/
theorem advances_foldlM {items : List α} {step : β → α → StateT σ Reading β} {base : β}
    {good : σ → β → Prop} (hbase : good start base)
    (hgood : ∀ state state' value, progress.le state state' → good state value →
      good state' value)
    (hstep : ∀ item ∈ items, ∀ state value, progress.le start state → good state value →
      progress.Advances state (step value item) good) :
    progress.Advances start (items.foldlM step base) good := by
  induction items generalizing start base with
  | nil => exact advances_pure fun state hle _ => hgood start state base hle hbase
  | cons item rest ih =>
      rw [List.foldlM_cons]
      refine (hstep item List.mem_cons_self start base (progress.refl start) hbase).bind
        fun state value hle _ hvalue => ?_
      refine ih hvalue fun other hother state' value' hle' => ?_
      exact hstep other (List.mem_cons_of_mem _ hother) state' value' (progress.trans hle hle')

end Progress

end ModuleResolution.Yaml
