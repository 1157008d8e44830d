import ModuleResolution.Proofs.Path.Stem
import ModuleResolution.Proofs.Resolve.Probe

/-! # The candidates for a path

The paths that a path may stand for are written down in one list, `spellings`: the path itself, its
stem under another extension when its own is recognized, the path with an extension behind it, its
stem when its own extension is not recognized, and the index files of the folder of that name. Of
these the ones with an excluded extension drop out, and a probe finds the first of the others that
leads to something else than a folder (`probeFile_eq_first`).
-/

set_option autoImplicit false

namespace ModuleResolution.Rules

/-- A text with each extension that may be matched behind it. -/
def behind (rules : Rules) (front : String) : List String := rules.probeOrder.map (front ++ ·)

def IsKnown (rules : Rules) (ending : String) : Prop :=
  ending ∈ rules.allowed ∧ ending ∉ rules.excluded

instance (rules : Rules) (ending : String) : Decidable (rules.IsKnown ending) :=
  inferInstanceAs (Decidable (_ ∧ _))

/-- The paths that a path with some stem may stand for, in the order in which they count. -/
def spellings (rules : Rules) (path stem : String) : List String :=
  let ending := Path.extension path
  [path] ++
  (if ending ≠ "" ∧ rules.IsKnown ending then rules.behind stem else []) ++
  rules.behind path ++
  (if ending ≠ "" ∧ ¬ rules.IsKnown ending then rules.behind stem else []) ++
  rules.behind (Path.join [path, Layout.defaultEntry])

/-- The spellings of a path whose own extension is not excluded. -/
def admitted (rules : Rules) (paths : List String) : List String :=
  paths.filter fun path => Path.extension path ∉ rules.excluded

variable (rules : Rules)

theorem isRecognized_iff_isKnown (ending : String) :
    rules.isRecognized ending = true ↔ rules.IsKnown ending := by
  simp [isRecognized, isExcluded, IsKnown]

theorem admitted_append (front back : List String) :
    rules.admitted (front ++ back) = rules.admitted front ++ rules.admitted back :=
  List.filter_append ..

theorem admitted_behind (front : String) : rules.admitted (rules.behind front) =
    rules.candidates front := by
  refine List.filter_congr fun path _ => ?_
  simp [isExcluded]

/-- The stem of a normal path is what is left of it when its extension is cut off. -/
theorem clearExtension_eq {path stem : String} (hnormal : Path.normalize path = path)
    (hstem : stem ++ Path.extension path = path) : Path.clearExtension path = stem := by
  have hsame : Path.clearExtension path ++ Path.extension path = stem ++ Path.extension path :=
    (Path.clearExtensionWith_append_extension Path.compoundExtensions hnormal).trans hstem.symm
  rw [← String.toList_inj, String.toList_append, String.toList_append] at hsame
  exact String.toList_inj.mp (List.append_cancel_right hsame)

/-- **Probing tries the admitted spellings** of a normal path, in their order. -/
theorem probed_eq_admitted {path stem : String} (hnormal : Path.normalize path = path)
    (hstem : stem ++ Path.extension path = path) :
    rules.probed path = rules.admitted (rules.spellings path stem) := by
  have hfirst : rules.admitted [path] =
      if rules.isExcluded (Path.extension path) then [] else [path] := by
    unfold admitted isExcluded
    by_cases hexcluded : Path.extension path ∈ rules.excluded <;> simp [hexcluded]
  have hnone : rules.admitted [] = [] := rfl
  have hknown : rules.hasRecognized path = true ↔
      Path.extension path ≠ "" ∧ rules.IsKnown (Path.extension path) := by
    rw [hasRecognized, Bool.and_eq_true, bne_iff_ne, isRecognized_iff_isKnown]
  have hunknown : rules.hasUnrecognized path = true ↔
      Path.extension path ≠ "" ∧ ¬ rules.IsKnown (Path.extension path) := by
    rw [hasUnrecognized, Bool.and_eq_true, bne_iff_ne, Bool.not_eq_true',
      ← isRecognized_iff_isKnown, Bool.not_eq_true]
  unfold probed spellings
  rw [clearExtension_eq hnormal hstem]
  simp only [admitted_append, apply_ite rules.admitted, admitted_behind, hfirst, hnone, hknown,
    hunknown, List.append_assoc]
  rfl

/-- **A probe finds the first admitted spelling that leads to something else than a folder**, and
nothing when there is none. -/
theorem probeFile_eq_first (rules : Rules) (place : Place) {path : String}
    (hnormal : Path.normalize path = path) :
    ∃ stem, stem ++ Path.extension path = path ∧
      (rules.probeFile path).outcome place =
        (rules.admitted (rules.spellings path stem)).find? (fun candidate =>
          (place.kind? candidate).isSome && place.kind? candidate != some .folder) ∧
      ((rules.probeFile path).outcome place = none ↔
        ∀ candidate ∈ rules.admitted (rules.spellings path stem),
          place.kind? candidate = none ∨ place.kind? candidate = some .folder) := by
  have hstem : Path.clearExtension path ++ Path.extension path = path :=
    Path.clearExtensionWith_append_extension Path.compoundExtensions hnormal
  have hfile : place.isFile = fun candidate =>
      (place.kind? candidate).isSome && place.kind? candidate != some .folder := by
    funext candidate
    unfold Place.isFile
    rcases place.kind? candidate with _ | (_ | _) <;> rfl
  have houtcome : (rules.probeFile path).outcome place =
      (rules.admitted (rules.spellings path (Path.clearExtension path))).find? place.isFile := by
    rw [outcome_probeFile, probed_eq_admitted rules hnormal hstem]
  refine ⟨Path.clearExtension path, hstem, ?_, ?_⟩
  · rw [houtcome, hfile]
  · rw [houtcome, List.find?_eq_none]
    refine forall₂_congr fun candidate _ => ?_
    rw [Place.isFile_iff]
    rcases place.kind? candidate with _ | (_ | _) <;> simp

/-- A path that leads nowhere, beside a file of its stem with a later extension, one of the whole
path with an earlier extension, and a folder of its stem with the first. -/
theorem probeFile_eq_first_swapped :
    let rules := ({} : Options).rules
    let place : Place := ⟨.subfolder "p" (.file "a.js.ts" [] (.file "a.json" []
      (.subfolder "a.ts" .empty .empty))) .empty, "/"⟩
    Path.normalize "/p/a.js" = "/p/a.js" ∧
      (rules.probeFile "/p/a.js").outcome place = some "/p/a.json" := by
  intro rules place
  have hnormal : Path.normalize "/p/a.js" = "/p/a.js" := by decide +kernel
  obtain ⟨stem, hstem, hfirst, -⟩ := probeFile_eq_first rules place hnormal
  have hcut : stem = "/p/a" := by
    rw [← clearExtension_eq hnormal hstem]
    decide +kernel
  refine ⟨hnormal, ?_⟩
  rw [hfirst, hcut]
  decide +kernel

end ModuleResolution.Rules
