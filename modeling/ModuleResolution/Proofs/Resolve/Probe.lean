import ModuleResolution.Proofs.Resolve.Outcome
import ModuleResolution.Resolve.Probe

/-! # What probing finds

Probing is a search in a list: the first of the paths it tries that leads to a file. For a stem
the list is `candidates`; for a path as a whole it is `probed`, the paths that `probeFile` tries
in the order in which it tries them (`outcome_probeFile`). Each of them is the path itself or a
candidate for one of its stems (`mem_probed`).
-/

set_option autoImplicit false

namespace ModuleResolution

theorem Lookup.outcome_firstFile (place : Place) (paths : List String) :
    (firstFile paths).outcome place = paths.find? place.isFile :=
  outcome_first place _ paths

namespace Rules

theorem isRecognized_iff {rules : Rules} {extension : String} :
    rules.isRecognized extension = true ↔
      extension ∈ rules.allowed ∧ extension ∉ rules.excluded := by
  simp [isRecognized, isExcluded]

variable (rules : Rules) (place : Place)

@[simp] theorem outcome_firstMatch (stem : String) :
    (rules.firstMatch stem).outcome place = (rules.candidates stem).find? place.isFile :=
  Lookup.outcome_firstFile place _

@[simp] theorem outcome_indexMatch (directory : String) :
    (rules.indexMatch directory).outcome place =
      (rules.candidates (indexStem directory)).find? place.isFile :=
  outcome_firstMatch rules place _

/-- A note changes nothing of what is found. -/
@[simp] theorem outcome_noting (note : String → Note) (search : Lookup (Option String)) :
    (noting note search).outcome place = search.outcome place := by
  rw [noting, Lookup.outcome_bind]
  cases search.outcome place <;> rfl

/-- The paths that are tried when a path is probed, in this order. -/
def probed (path : String) : List String :=
  (if rules.isExcluded (Path.extension path) then [] else [path]) ++
  ((if rules.hasRecognized path then rules.candidates (Path.clearExtension path) else []) ++
  (rules.candidates path ++
  ((if rules.hasUnrecognized path then rules.candidates (Path.clearExtension path) else []) ++
  rules.candidates (indexStem path))))

theorem outcome_exactMatch (path : String) :
    (rules.exactMatch path).outcome place =
      (if rules.isExcluded (Path.extension path) then [] else [path]).find? place.isFile := by
  unfold exactMatch
  split
  · rfl
  · exact Lookup.outcome_firstFile place _

theorem outcome_onlyIf_noting (condition : Bool) (note : String → Note) (stem : String) :
    (onlyIf condition (noting note (rules.firstMatch stem))).outcome place =
      (if condition then rules.candidates stem else []).find? place.isFile := by
  cases condition with
  | false => rfl
  | true => exact (outcome_noting place note _).trans (outcome_firstMatch rules place stem)

/-- **Probing a path finds the first file among the paths it tries.** -/
theorem outcome_probeFile (path : String) :
    (rules.probeFile path).outcome place = (rules.probed path).find? place.isFile := by
  rw [probeFile, probed]
  simp only [Lookup.outcome_orElse, clearedMatch, outcome_exactMatch, outcome_onlyIf_noting,
    outcome_noting, outcome_firstMatch, outcome_indexMatch, List.find?_append]

/-- The stems whose candidates may be tried when a path is probed. -/
def stems (path : String) : List String := [Path.clearExtension path, path, indexStem path]

/-- **Each path that is tried** is the path itself, when its extension is not excluded, or a
candidate for one of its stems. -/
theorem mem_probed {rules : Rules} {path found : String} (h : found ∈ rules.probed path) :
    (found = path ∧ rules.isExcluded (Path.extension path) = false) ∨
      ∃ stem ∈ stems path, found ∈ rules.candidates stem := by
  unfold probed at h
  simp only [List.mem_append] at h
  rcases h with hexact | hcleared | happended | hcleared | hindex
  · left
    split at hexact
    · simp at hexact
    · next hadmitted => exact ⟨by simpa using hexact, by simpa using hadmitted⟩
  · right
    split at hcleared
    · exact ⟨_, by simp [stems], hcleared⟩
    · simp at hcleared
  · exact Or.inr ⟨path, by simp [stems], happended⟩
  · right
    split at hcleared
    · exact ⟨_, by simp [stems], hcleared⟩
    · simp at hcleared
  · exact Or.inr ⟨indexStem path, by simp [stems], hindex⟩

/-- A candidate is a stem with an extension behind it that is allowed and not excluded, and the
extension that it ends up with is not excluded either. -/
theorem mem_candidates {rules : Rules} {stem found : String} :
    found ∈ rules.candidates stem ↔
      (∃ ending ∈ rules.probeOrder, stem ++ ending = found) ∧
        rules.isExcluded (Path.extension found) = false := by
  rw [candidates, List.mem_filter, List.mem_map]
  simp

end Rules

end ModuleResolution
