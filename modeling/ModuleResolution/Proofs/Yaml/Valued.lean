import Mathlib.Data.List.Induction
import Mathlib.Data.List.Nodup
import Mathlib.Logic.Relation
import Mathlib.Tactic.Tauto
import ModuleResolution.Proofs.Value.Equality
import ModuleResolution.Proofs.Yaml.View

/-! # The value of a part

The value of a part has the form of the part, and so have the values in it; only a part that stands
inside of itself, or holds such a part, may be cut off (`Mirrors`). Values that are known already are
used again, so what is known is the invariant of the computation: it is right, or belongs to a part
that is being computed (`Knows`). From a part without such loops the same is seen as in its value
(`Mirrors.lookFrom`).
-/

set_option autoImplicit false

namespace ModuleResolution.Yaml

/-- The numbers of what lies in a part. -/
def Part.inner : Part → List Nat
  | .scalar _ => []
  | .list items => items
  | .set _ => []
  | .mapping entries => entries.map (·.2)

namespace Document

variable {document : Document} {number : Nat} {value : Value}

def LiesIn (document : Document) (inner number : Nat) : Prop :=
  inner ∈ (document.part number).inner

/-- No part stands inside of itself, of those that are met from the part on. -/
def IsFinite (document : Document) (number : Nat) : Prop := Acc document.LiesIn number

/-- A part that stands inside of itself is not finite. -/
theorem not_isFinite_of_loop (h : Relation.TransGen document.LiesIn number number) :
    ¬ document.IsFinite number := by
  intro hfinite
  have hacc : Acc (Relation.TransGen document.LiesIn) number := Acc.transGen hfinite
  induction hacc with
  | intro number _ ih => exact ih number h h hfinite

theorem lt_of_liesIn (hclosed : document.IsClosed) {inner : Nat}
    (h : document.LiesIn inner number) : inner < document.parts.size := by
  have hparts := hclosed.parts number
  unfold LiesIn at h
  cases hpart : document.part number with
  | scalar s =>
      rw [hpart] at h
      cases h
  | list items =>
      rw [hpart] at h hparts
      exact hparts inner h
  | set members =>
      rw [hpart] at h
      cases h
  | mapping entries =>
      rw [hpart] at h hparts
      obtain ⟨entry, hentry, rfl⟩ := List.mem_map.mp h
      exact (hparts entry hentry).2

/-! ## Values of the form of a part -/

/-- The value has the form of the part, and so have the values in it, but parts that are not finite
may be cut off. -/
inductive Mirrors (document : Document) : Nat → Value → Prop
  | scalar {number : Nat} {s : Scalar} (h : document.part number = .scalar s) :
    Mirrors document number (.scalar s)
  | cut {number : Nat} (h : ¬ document.IsFinite number) : Mirrors document number .null
  | list {number : Nat} {items : List Nat} {values : List Value}
    (h : document.part number = .list items)
    (hitems : List.Forall₂ (Mirrors document) items values) :
    Mirrors document number (.list values)
  | set {number : Nat} {members : List Nat} (h : document.part number = .set members) :
    Mirrors document number (.set (members.map document.scalarAt))
  | mapping {number : Nat} {entries : List (Nat × Nat)} {values : Mapping}
    (h : document.part number = .mapping entries)
    (hkeys : entries.map (fun entry => document.scalarAt entry.1) = values.map (·.1))
    (hvalues : List.Forall₂ (Mirrors document) (entries.map (·.2)) (values.map (·.2))) :
    Mirrors document number (.mapping values)

/-- The entries have the same keys and values of the form of what belongs to them. -/
def MirrorsEntries (document : Document) (entries : List (Nat × Nat)) (values : Mapping) : Prop :=
  List.Forall₂ (fun entry shown => document.scalarAt entry.1 = shown.1 ∧
    document.Mirrors entry.2 shown.2) entries values

theorem mirrorsEntries_iff {entries : List (Nat × Nat)} {values : Mapping} :
    document.MirrorsEntries entries values ↔
      entries.map (fun entry => document.scalarAt entry.1) = values.map (·.1) ∧
        List.Forall₂ document.Mirrors (entries.map (·.2)) (values.map (·.2)) := by
  unfold MirrorsEntries
  induction entries generalizing values with
  | nil => cases values <;> simp
  | cons entry rest ih =>
      cases values with
      | nil => simp
      | cons shown values =>
          rw [List.forall₂_cons, ih]
          simp only [List.map_cons, List.forall₂_cons, List.cons.injEq]
          tauto

/-- The value has the form of the part, which is not cut off. -/
structure IsValue (document : Document) (number : Nat) (value : Value) : Prop where
  mirrors : document.Mirrors number value
  isNull (h : value = .null) : document.part number = .scalar .null

theorem IsValue.of_list (h : document.IsValue number value) {items : List Nat}
    (hpart : document.part number = .list items) :
    ∃ values, value = .list values ∧ List.Forall₂ document.Mirrors items values := by
  obtain ⟨hmirrors, hnull⟩ := h
  cases hmirrors with
  | scalar h => rw [h] at hpart; cases hpart
  | cut h => rw [hnull rfl] at hpart; cases hpart
  | list h hitems =>
      rw [h] at hpart
      cases hpart
      exact ⟨_, rfl, hitems⟩
  | set h => rw [h] at hpart; cases hpart
  | mapping h _ _ => rw [h] at hpart; cases hpart

theorem IsValue.of_set (h : document.IsValue number value) {members : List Nat}
    (hpart : document.part number = .set members) :
    value = .set (members.map document.scalarAt) := by
  obtain ⟨hmirrors, hnull⟩ := h
  cases hmirrors with
  | scalar h => rw [h] at hpart; cases hpart
  | cut h => rw [hnull rfl] at hpart; cases hpart
  | list h _ => rw [h] at hpart; cases hpart
  | set h =>
      rw [h] at hpart
      cases hpart
      rfl
  | mapping h _ _ => rw [h] at hpart; cases hpart

theorem IsValue.of_mapping (h : document.IsValue number value) {entries : List (Nat × Nat)}
    (hpart : document.part number = .mapping entries) :
    ∃ values, value = .mapping values ∧ document.MirrorsEntries entries values := by
  obtain ⟨hmirrors, hnull⟩ := h
  cases hmirrors with
  | scalar h => rw [h] at hpart; cases hpart
  | cut h => rw [hnull rfl] at hpart; cases hpart
  | list h _ => rw [h] at hpart; cases hpart
  | set h => rw [h] at hpart; cases hpart
  | mapping h hkeys hvalues =>
      rw [h] at hpart
      cases hpart
      exact ⟨_, rfl, mirrorsEntries_iff.mpr ⟨hkeys, hvalues⟩⟩

theorem isFinite_of_scalar {s : Scalar} (h : document.part number = .scalar s) :
    document.IsFinite number := by
  refine .intro number fun inner hinner => ?_
  rw [LiesIn, h] at hinner
  cases hinner

/-- The value of a scalar is that scalar. -/
theorem Mirrors.eq_scalar (h : document.Mirrors number value) {s : Scalar}
    (hpart : document.part number = .scalar s) : value = .scalar s := by
  cases h with
  | scalar h =>
      rw [h] at hpart
      cases hpart
      rfl
  | cut h => exact absurd (isFinite_of_scalar hpart) h
  | list h _ => rw [h] at hpart; cases hpart
  | set h => rw [h] at hpart; cases hpart
  | mapping h _ _ => rw [h] at hpart; cases hpart

/-- **In the value of a finite part the same is seen as from the part.** -/
theorem Mirrors.lookFrom (hfinite : document.IsFinite number) :
    ∀ {value : Value}, document.Mirrors number value → document.lookFrom number = value.look := by
  induction hfinite with
  | intro number hinner ih =>
      intro value h
      -- below the part the same is seen
      have hbelow : ∀ {inners : List Nat} {values : List Value},
          (∀ inner ∈ inners, document.LiesIn inner number) →
            List.Forall₂ document.Mirrors inners values →
              List.Forall₂ (fun inner below => document.lookFrom inner = below.look) inners
                values :=
        fun hliesIn hmirrors => ((List.forall₂_and_left _ _).mpr ⟨hliesIn, hmirrors⟩).imp
          fun inner _ h => ih inner h.1 h.2
      cases h with
      | scalar h =>
          refine lookFrom_eq_of_next? (shape_of_scalar h) fun step => ?_
          rw [next?_of_scalar h]
          exact .none
      | cut h => exact absurd (.intro number hinner) h
      | @list _ items values h hitems =>
          have hliesIn : ∀ inner ∈ items, document.LiesIn inner number := by
            intro inner hinner
            unfold LiesIn
            rw [h]
            exact hinner
          refine lookFrom_eq_of_next? ?_ fun step => ?_
          · rw [shape_of_list h, hitems.length_eq]
            rfl
          · cases step with
            | key key =>
                rw [next?_of_list_key h]
                exact .none
            | item index =>
                rw [next?_of_item h]
                exact rel_getElem? (hbelow hliesIn hitems) index
      | @set _ members h =>
          refine lookFrom_eq_of_next? ?_ fun step => ?_
          · unfold shape
            rw [h]
            refine congrArg Shape.set (funext fun key => ?_)
            rw [List.any_map]
            rfl
          · unfold next?
            rw [h]
            cases step <;> exact .none
      | @mapping _ entries values h hkeys hvalues =>
          have hliesIn : ∀ entry ∈ entries, document.LiesIn entry.2 number := by
            intro entry hentry
            unfold LiesIn
            rw [h]
            exact List.mem_map.mpr ⟨entry, hentry, rfl⟩
          have hentries := (List.forall₂_and_left _ _).mpr
            ⟨hliesIn, mirrorsEntries_iff.mpr ⟨hkeys, hvalues⟩⟩
          refine lookFrom_eq_of_next? (shape_of_mapping h) fun step => ?_
          cases step with
          | item index =>
              rw [next?_of_mapping_item h]
              exact .none
          | key key =>
              rw [next?_of_key h]
              exact rel_find? (hentries.imp fun _ _ h => ⟨h.2.1, ih _ h.1 h.2.2⟩) key

/-! ## Computing values -/

/-- What is known while some parts are being computed: those count as nothing, and what else is known
is right. -/
structure Knows (document : Document) (busy : List Nat) (known : Array (Option Value)) : Prop where
  size : known.size = document.parts.size
  begun : ∀ number ∈ busy, known[number]? = some (some .null)
  right (number : Nat) (value : Value) (h : known[number]? = some (some value)) :
    number ∈ busy ∨ document.IsValue number value

/-- A step keeps what is known right, and its result is good. -/
def Computes {α : Type} (document : Document) (busy : List Nat) (step : Valuing α)
    (good : α → Prop) : Prop :=
  ∀ known, document.Knows busy known →
    document.Knows busy (step.run known).2 ∧ good (step.run known).1

section Computes

variable {α β : Type} {busy : List Nat}

theorem Computes.map {step : Valuing α} {good : α → Prop} {goal : β → Prop} {change : α → β}
    (h : document.Computes busy step good) (hgoal : ∀ value, good value → goal (change value)) :
    document.Computes busy (change <$> step) goal := by
  intro known hknown
  obtain ⟨hafter, hgood⟩ := h known hknown
  exact ⟨hafter, hgoal _ hgood⟩

theorem computes_mapM {items : List α} {step : α → Valuing β} {good : α → β → Prop}
    (h : ∀ item ∈ items, document.Computes busy (step item) (good item)) :
    document.Computes busy (items.mapM step) (List.Forall₂ good items) := by
  induction items with
  | nil => exact fun known hknown => ⟨hknown, .nil⟩
  | cons item rest ih =>
      intro known hknown
      obtain ⟨hfirst, hgood⟩ := h item List.mem_cons_self known hknown
      obtain ⟨hrest, hgoods⟩ :=
        ih (fun other hother => h other (List.mem_cons_of_mem _ hother)) _ hfirst
      rw [List.mapM_cons]
      exact ⟨hrest, .cons hgood hgoods⟩

end Computes

section Knows

variable {busy : List Nat} {known : Array (Option Value)}

theorem Knows.lookup (h : document.Knows busy known) (hsize : number < document.parts.size)
    (value : Value) (index : Nat) :
    (known.setIfInBounds number (some value))[index]? =
      if number = index then some (some value) else known[index]? := by
  have hknown : number < known.size := h.size ▸ hsize
  rw [Array.getElem?_setIfInBounds]
  by_cases hsame : number = index
  · subst hsame
    simp [hknown]
  · simp [hsame]

/-- A part is begun: it counts as nothing until its value is known. -/
theorem Knows.begin (h : document.Knows busy known) (hsize : number < document.parts.size) :
    document.Knows (number :: busy) (known.setIfInBounds number (some .null)) := by
  refine ⟨Array.size_setIfInBounds.trans h.size, fun index hindex => ?_,
    fun index value hvalue => ?_⟩
  · rw [h.lookup hsize]
    split
    · rfl
    · next hne => exact h.begun index ((List.mem_cons.mp hindex).resolve_left (Ne.symm hne))
  · rw [h.lookup hsize] at hvalue
    split at hvalue
    · next hsame => exact .inl (hsame ▸ List.mem_cons_self)
    · exact (h.right index value hvalue).imp_left (List.mem_cons_of_mem _)

/-- A part is finished: its value is known. -/
theorem Knows.finish (h : document.Knows (number :: busy) known) (hnew : number ∉ busy)
    (hsize : number < document.parts.size) (hvalue : document.IsValue number value) :
    document.Knows busy (known.setIfInBounds number (some value)) := by
  refine ⟨Array.size_setIfInBounds.trans h.size, fun index hindex => ?_,
    fun index value' hvalue' => ?_⟩
  · have hne : number ≠ index := fun hsame => hnew (hsame ▸ hindex)
    rw [h.lookup hsize, if_neg hne]
    exact h.begun index (List.mem_cons_of_mem _ hindex)
  · rw [h.lookup hsize] at hvalue'
    split at hvalue'
    · next hsame =>
        cases hvalue'
        exact .inr (hsame ▸ hvalue)
    · next hne =>
        exact (h.right index value' hvalue').imp_left fun hindex =>
          (List.mem_cons.mp hindex).resolve_left (Ne.symm hne)

end Knows

/-- The value of a part is made of the values of the parts in it. -/
def composed (document : Document) (depth number : Nat) : Valuing Value :=
  match document.part number with
  | .scalar s => pure (.scalar s)
  | .list items => .list <$> items.mapM (document.valueIn depth)
  | .set members => pure (.set (members.map document.scalarAt))
  | .mapping entries =>
    .mapping <$> entries.mapM fun (key, number) => do
      return (document.scalarAt key, ← document.valueIn depth number)

theorem run_valueIn_succ (document : Document) (depth number : Nat)
    (known : Array (Option Value)) :
    (document.valueIn (depth + 1) number).run known =
      match known[number]?.join with
      | some value => (value, known)
      | none =>
        let result := (document.composed depth number).run
          (known.setIfInBounds number (some .null))
        (result.1, result.2.setIfInBounds number (some result.1)) := by
  rw [valueIn]
  show (StateT.run (match known[number]?.join with | some value => _ | none => _) known : Id _) = _
  cases known[number]?.join with
  | some value => rfl
  | none =>
      unfold composed
      cases document.part number <;> rfl

theorem computes_composed {busy : List Nat} {depth : Nat}
    (h : ∀ inner, document.LiesIn inner number →
      document.Computes busy (document.valueIn depth inner) (document.Mirrors inner)) :
    document.Computes busy (document.composed depth number) (document.IsValue number) := by
  unfold composed
  unfold LiesIn at h
  -- the parts inside are known by hypothesis; scalars and sets have none
  cases hpart : document.part number with
  | scalar s =>
      refine fun known hknown => ⟨hknown, .scalar hpart, fun hnull => ?_⟩
      cases hnull
      exact hpart
  | set members => exact fun known hknown => ⟨hknown, .set hpart, nofun⟩
  | list items =>
      rw [hpart] at h
      exact (computes_mapM h).map fun values hvalues => ⟨.list hpart hvalues, nofun⟩
  | mapping entries =>
      rw [hpart] at h
      have hentries : document.Computes busy (entries.mapM fun (key, number) => do
          return (document.scalarAt key, ← document.valueIn depth number))
          (document.MirrorsEntries entries) :=
        computes_mapM fun entry hentry =>
          (h entry.2 (List.mem_map.mpr ⟨entry, hentry, rfl⟩)).map
            fun value hvalue => ⟨rfl, hvalue⟩
      refine hentries.map fun values hvalues => ⟨?_, nofun⟩
      obtain ⟨hkeys, hmirrors⟩ := mirrorsEntries_iff.mp hvalues
      exact .mapping hpart hkeys hmirrors

/-- **The value of a part is right**, while some parts in which it lies are being computed. -/
theorem computes_valueIn (hclosed : document.IsClosed) (depth : Nat) {busy : List Nat}
    (hsize : number < document.parts.size) (hnodup : busy.Nodup)
    (hbusy : ∀ other ∈ busy, other < document.parts.size)
    (hdepth : document.parts.size < depth + busy.length)
    (hliesIn : ∀ other ∈ busy, Relation.TransGen document.LiesIn number other) :
    document.Computes busy (document.valueIn depth number) fun value =>
      document.Mirrors number value ∧ (number ∉ busy → document.IsValue number value) := by
  induction depth generalizing number busy with
  | zero =>
      -- there are not so many parts
      have hlength : busy.length ≤ (List.range document.parts.size).length :=
        hnodup.length_le_of_subset fun other hother => List.mem_range.mpr (hbusy other hother)
      rw [List.length_range] at hlength
      omega
  | succ depth ih =>
      intro known hknown
      rw [run_valueIn_succ]
      by_cases hmem : number ∈ busy
      · rw [hknown.begun number hmem]
        exact ⟨hknown, .cut (not_isFinite_of_loop (hliesIn number hmem)),
          fun hnew => absurd hmem hnew⟩
      · cases hlookup : known[number]?.join with
        | some value =>
            have hvalue : document.IsValue number value :=
              (hknown.right number value (Option.join_eq_some_iff.mp hlookup)).resolve_left hmem
            exact ⟨hknown, hvalue.mirrors, fun _ => hvalue⟩
        | none =>
            have hinner : ∀ inner, document.LiesIn inner number →
                document.Computes (number :: busy) (document.valueIn depth inner)
                  (document.Mirrors inner) := by
              intro inner hinner known hknown
              have hlonger : document.parts.size < depth + (number :: busy).length := by
                rw [List.length_cons]
                omega
              obtain ⟨hafter, hmirrors, -⟩ := ih (lt_of_liesIn hclosed hinner)
                (List.nodup_cons.mpr ⟨hmem, hnodup⟩)
                (List.forall_mem_cons.mpr ⟨hsize, hbusy⟩) hlonger
                (List.forall_mem_cons.mpr
                  ⟨.single hinner, fun other hother => .head hinner (hliesIn other hother)⟩)
                known hknown
              exact ⟨hafter, hmirrors⟩
            obtain ⟨hafter, hvalue⟩ := computes_composed hinner _ (hknown.begin hsize)
            exact ⟨hafter.finish hmem hsize hvalue, hvalue.mirrors, fun _ => hvalue⟩

/-- **The value of a part has its form**, and is not cut off. -/
theorem isValue_valueAt (hclosed : document.IsClosed) (hsize : number < document.parts.size) :
    document.IsValue number (document.valueAt number) := by
  have hstart : document.Knows [] (Array.replicate document.parts.size none) := by
    refine ⟨Array.size_replicate, nofun, fun index value h => ?_⟩
    rw [Array.getElem?_replicate] at h
    split at h <;> cases h
  have hdepth : document.parts.size < document.parts.size + 1 + ([] : List Nat).length := by
    rw [List.length_nil]
    omega
  exact (computes_valueIn hclosed (document.parts.size + 1) hsize .nil nofun hdepth nofun _
    hstart).2.2 List.not_mem_nil

/-! ## Parts that show a value -/

/-- A step leads to each part that lies in a part, unless an undefined number is a key there. -/
theorem exists_next?_of_liesIn (hsound : document.IsSound) {inner : Nat}
    (h : document.LiesIn inner number) :
    (∃ step, document.next? number step = some inner) ∨
      document.next? number (.key (.real .undefined)) ≠ none := by
  have hparts := hsound.parts number
  unfold LiesIn at h
  cases hpart : document.part number with
  | scalar s =>
      rw [hpart] at h
      cases h
  | set members =>
      rw [hpart] at h
      cases h
  | list items =>
      rw [hpart] at h
      obtain ⟨index, hindex⟩ := List.mem_iff_getElem?.mp h
      exact .inl ⟨.item index, (next?_of_item hpart index).trans hindex⟩
  | mapping entries =>
      rw [hpart] at h hparts
      obtain ⟨entry, hentry, rfl⟩ := List.mem_map.mp h
      have hkey : (entries.find? fun other =>
          (document.scalarAt other.1).asKey == (document.scalarAt entry.1).asKey).isSome :=
        List.find?_isSome.mpr ⟨entry, hentry, beq_self_eq_true _⟩
      obtain ⟨found, hfound⟩ := Option.isSome_iff_exists.mp hkey
      have hbeq := List.find?_some hfound
      have hsame := eq_of_beq hbeq
      obtain ⟨-, before, after, hsplit, hbefore⟩ := List.find?_eq_some_iff_append.mp hfound
      rw [hsplit] at hentry
      rcases List.mem_append.mp hentry with hmem | hmem
      · exact absurd (hbefore entry hmem) (by simp)
      · rcases List.mem_cons.mp hmem with rfl | hmem
        · refine .inl ⟨.key (document.scalarAt entry.1), ?_⟩
          rw [next?_of_key hpart, hfound]
          rfl
        · -- the entry that is found in front of it has the same key
          have hpairwise := hparts.2
          rw [hsplit, List.pairwise_append, List.pairwise_cons] at hpairwise
          have hundefined := hpairwise.2.1.1 entry hmem hsame
          refine .inr fun hnone => ?_
          rw [next?_of_key hpart, Option.map_eq_none_iff, List.find?_eq_none] at hnone
          refine hnone found ?_ ?_
          · rw [hsplit]
            exact List.mem_append_right _ List.mem_cons_self
          · rw [hundefined, beq_self_eq_true]

theorem sizeOf_next? {value below : Value} {step : Step} (h : value.next? step = some below) :
    sizeOf below < sizeOf value := by
  unfold Value.next? at h
  split at h
  · next entries key =>
      obtain ⟨entry, hentry, rfl⟩ := Option.map_eq_some_iff.mp h
      have hmem := List.sizeOf_lt_of_mem (List.mem_of_find?_eq_some hentry)
      obtain ⟨key, below⟩ := entry
      simp only [Prod.mk.sizeOf_spec, Value.mapping.sizeOf_spec] at hmem ⊢
      omega
  · next items index =>
      have hmem := List.sizeOf_lt_of_mem (List.mem_of_getElem? h)
      simp only [Value.list.sizeOf_spec] at hmem ⊢
      omega
  · cases h

/-- **A part that shows a value does not stand inside of itself.** -/
theorem isFinite_of_lookFrom (hsound : document.IsSound) {number : Nat} {value : Value}
    (hlook : document.lookFrom number = value.look) (hdefined : Look.IsDefined value.look) :
    document.IsFinite number := by
  -- each part inside shows a part of the value, which is smaller
  induction hsize : sizeOf value using Nat.strongRecOn generalizing number value with
  | ind size ih =>
      refine .intro number fun inner hinner => ?_
      obtain ⟨step, hstep⟩ : ∃ step, document.next? number step = some inner := by
        refine (exists_next?_of_liesIn hsound hinner).resolve_right fun hundefined => ?_
        obtain ⟨found, hfound⟩ := Option.ne_none_iff_exists'.mp hundefined
        have hkey := hdefined []
        rw [← hlook, List.nil_append, lookFrom_cons, hfound] at hkey
        cases hkey
      have hrest : ∀ rest, document.lookFrom inner rest = value.look (step :: rest) := by
        intro rest
        rw [← hlook, lookFrom_cons, hstep]
        rfl
      obtain ⟨below, hbelow⟩ : ∃ below, value.next? step = some below := by
        have hhere := hrest []
        rw [Value.look] at hhere
        cases hnext : value.next? step with
        | none =>
            rw [hnext] at hhere
            cases hhere
        | some below => exact ⟨below, rfl⟩
      have hinside : ∀ rest, value.look (step :: rest) = below.look rest := by
        intro rest
        rw [Value.look, hbelow]
        rfl
      refine ih (sizeOf below) (hsize ▸ sizeOf_next? hbelow)
        (funext fun rest => (hrest rest).trans (hinside rest)) (fun path => ?_) rfl
      rw [← hinside]
      exact hdefined (step :: path)

/-! ## Documents in which nothing is shared -/

/-- Each part stands in one place at most, and in front of what lies in it. -/
structure IsTree (document : Document) : Prop where
  root : document.root = 0 ∧ 0 < document.parts.size
  below : ∀ number < document.parts.size, (document.part number).IsBelow document.parts.size
  rising : ∀ number < document.parts.size, ∀ inner ∈ (document.part number).inner, number < inner
  nodup : ((List.range document.parts.size).flatMap fun number =>
    (document.part number).inner).Nodup

instance (bound : Nat) : (part : Part) → Decidable (part.IsBelow bound)
  | .scalar _ => .isTrue trivial
  | .list items => inferInstanceAs (Decidable (∀ item ∈ items, item < bound))
  | .set members => inferInstanceAs (Decidable (∀ member ∈ members, member < bound))
  | .mapping entries =>
    inferInstanceAs (Decidable (∀ entry ∈ entries, entry.1 < bound ∧ entry.2 < bound))

instance (document : Document) : Decidable document.IsTree :=
  decidable_of_iff (_ ∧ _ ∧ _ ∧ _)
    ⟨fun ⟨h₁, h₂, h₃, h₄⟩ => ⟨h₁, h₂, h₃, h₄⟩, fun ⟨h₁, h₂, h₃, h₄⟩ => ⟨h₁, h₂, h₃, h₄⟩⟩

theorem part_of_size_le (h : document.parts.size ≤ number) :
    document.part number = .scalar .null := by
  rw [part, Array.getD_eq_getD_getElem?, Array.getElem?_eq_none h]
  rfl

theorem lt_of_mem_inner {inner : Nat} (h : inner ∈ (document.part number).inner) :
    number < document.parts.size := by
  refine Nat.lt_of_not_le fun hsize => ?_
  rw [part_of_size_le hsize] at h
  cases h

theorem mem_inner_of_next? {step : Step} {inner : Nat}
    (h : document.next? number step = some inner) : inner ∈ (document.part number).inner := by
  unfold next? at h
  split at h
  · next entries key hpart =>
      obtain ⟨entry, hentry, rfl⟩ := Option.map_eq_some_iff.mp h
      rw [hpart]
      exact List.mem_map.mpr ⟨entry, List.mem_of_find?_eq_some hentry, rfl⟩
  · next items index hpart =>
      rw [hpart]
      exact List.mem_of_getElem? h
  · cases h

namespace IsTree

variable (htree : document.IsTree)

include htree

theorem isClosed : document.IsClosed := by
  refine ⟨htree.root.1 ▸ htree.root.2, fun number => ?_⟩
  by_cases hsize : number < document.parts.size
  · exact htree.below number hsize
  · rw [part_of_size_le (Nat.le_of_not_lt hsize)]
    trivial

theorem isFinite (number : Nat) : document.IsFinite number := by
  -- what lies inside comes later, and there are so many parts
  induction hrest : document.parts.size - number using Nat.strongRecOn generalizing number with
  | ind rest ih =>
      refine .intro number fun inner hinner => ?_
      have hsize := lt_of_mem_inner hinner
      have hrising := htree.rising number hsize inner hinner
      exact ih (document.parts.size - inner) (by omega) inner rfl

/-- What is seen of the document is seen of its value. -/
theorem look_eq : document.look = document.value.look :=
  (isValue_valueAt htree.isClosed htree.isClosed.root).mirrors.lookFrom (htree.isFinite _)

theorem root_ne {number inner : Nat} (h : inner ∈ (document.part number).inner) :
    inner ≠ document.root := by
  have hrising := htree.rising number (lt_of_mem_inner h) inner h
  rw [htree.root.1]
  omega

theorem eq_of_mem_inner {number other inner : Nat} (h : inner ∈ (document.part number).inner)
    (h' : inner ∈ (document.part other).inner) : number = other := by
  have hpairs := List.pairwise_iff_getElem.mp (List.nodup_flatMap.mp htree.nodup).2
  have happart : ∀ {first second : Nat}, first < second →
      inner ∈ (document.part first).inner → inner ∉ (document.part second).inner := by
    intro first second hlt hfirst hsecond
    have hdisjoint := hpairs first second (by simpa using lt_of_mem_inner hfirst)
      (by simpa using lt_of_mem_inner hsecond) hlt
    rw [List.getElem_range, List.getElem_range] at hdisjoint
    exact hdisjoint hfirst hsecond
  rcases Nat.lt_trichotomy number other with hlt | heq | hlt
  · exact absurd h' (happart hlt h)
  · exact heq
  · exact absurd h (happart hlt h')

/-- No other step leads to where a text key leads. -/
theorem eq_key_of_next? {name : String} {step : Step} {inner : Nat}
    (h : document.next? number (.key (.text name)) = some inner)
    (hstep : document.next? number step = some inner) : step = .key (.text name) := by
  obtain ⟨entries, hpart⟩ := exists_part_of_next?_key h
  have hnodup : (entries.map (·.2)).Nodup := by
    have hall := (List.nodup_flatMap.mp htree.nodup).1 number
      (List.mem_range.mpr (lt_of_mem_inner (mem_inner_of_next? h)))
    rw [hpart] at hall
    exact hall
  cases step with
  | item index =>
      rw [next?_of_mapping_item hpart] at hstep
      cases hstep
  | key key =>
      rw [next?_of_key hpart] at h hstep
      obtain ⟨entry, hentry, hinner⟩ := Option.map_eq_some_iff.mp h
      obtain ⟨other, hother, hinner'⟩ := Option.map_eq_some_iff.mp hstep
      obtain rfl : entry = other := List.inj_on_of_nodup_map hnodup
        (List.mem_of_find?_eq_some hentry) (List.mem_of_find?_eq_some hother)
        (hinner.trans hinner'.symm)
      have hname := List.find?_some hentry
      have hkey := List.find?_some hother
      rw [beq_iff_eq] at hname hkey
      rw [Scalar.eq_text_of_asKey (hkey.symm.trans hname)]

/-- **What is met on a path through text keys is met on no other path.** -/
theorem isOnlyAt (names : List String) {number : Nat}
    (h : document.follow document.root (names.map fun name => .key (.text name)) = some number) :
    document.IsOnlyAt (names.map fun name => .key (.text name)) number := by
  refine ⟨h, fun path hpath => ?_⟩
  -- back from the end of both paths: in a tree a part has one parent, and one step from it
  induction names using List.reverseRecOn generalizing number path with
  | nil =>
      obtain rfl := Option.some.inj h
      rcases List.eq_nil_or_concat path with rfl | ⟨front, step, rfl⟩
      · rfl
      · rw [List.concat_eq_append, follow_append] at hpath
        obtain ⟨last, -, hlast⟩ := Option.bind_eq_some_iff.mp hpath
        obtain ⟨inner, hinner, hsame⟩ := follow_cons_eq_some.mp hlast
        cases hsame
        exact absurd rfl (htree.root_ne (mem_inner_of_next? hinner))
  | append_singleton names name ih =>
      rw [List.map_append, follow_append] at h
      obtain ⟨last, hlast, hname⟩ := Option.bind_eq_some_iff.mp h
      obtain ⟨inner, hinner, hsame⟩ := follow_cons_eq_some.mp hname
      cases hsame
      rcases List.eq_nil_or_concat path with rfl | ⟨front, step, rfl⟩
      · cases hpath
        exact absurd rfl (htree.root_ne (mem_inner_of_next? hinner))
      · rw [List.concat_eq_append] at hpath ⊢
        rw [follow_append] at hpath
        obtain ⟨other, hother, hstep⟩ := Option.bind_eq_some_iff.mp hpath
        obtain ⟨found, hfound, hsame⟩ := follow_cons_eq_some.mp hstep
        cases hsame
        obtain rfl := htree.eq_of_mem_inner (mem_inner_of_next? hinner)
          (mem_inner_of_next? hfound)
        rw [ih hlast front hother, htree.eq_key_of_next? hinner hfound, List.map_append]
        rfl

end IsTree

end Document

end ModuleResolution.Yaml
