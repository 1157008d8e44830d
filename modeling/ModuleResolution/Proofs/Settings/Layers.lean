import ModuleResolution.Proofs.Settings.Merging

/-! # Sections as layers

A section in which each key is there once and whose list fields hold lists is a layer. Merging two
layers gives a layer, in which a list field has the items of the first and then those of the second,
and any other key has what the second has for it, or else the first (`IsLayer.exists_merge`). A
mapping is determined by its keys in order and by what belongs to them (`Entries.eq_of_keys`), so
merging layers is associative because it is for the values of one key (`combined_assoc`), and the
section without entries changes nothing.
-/

set_option autoImplicit false

namespace ModuleResolution

/-! ## Keys of mappings -/

namespace Entries

variable {α : Type} {entries other : Entries α} {key : Scalar}

def keys (entries : Entries α) : List Scalar := entries.map (·.1)

/-- Each key is there once. -/
def HasDistinctKeys (entries : Entries α) : Prop := (entries.keys.map Scalar.asKey).Nodup

instance : Decidable entries.HasDistinctKeys := inferInstanceAs (Decidable (List.Nodup _))

theorem get?_cons (entry : Scalar × α) (rest : Entries α) (key : Scalar) :
    get? (entry :: rest) key =
      if entry.1.asKey = key.asKey then some entry.2 else get? rest key := by
  unfold get?
  rw [List.find?_cons]
  split
  · next h => rw [if_pos (of_decide_eq_true h), Option.map_some]
  · next h => rw [if_neg (of_decide_eq_false h)]

theorem get?_congr {other : Scalar} (h : key.asKey = other.asKey) (entries : Entries α) :
    get? entries key = get? entries other := by
  rw [get?, get?, h]

/-- A key that has nothing is none of the keys. -/
theorem get?_eq_none_iff : get? entries key = none ↔ key.asKey ∉ entries.keys.map Scalar.asKey := by
  induction entries with
  | nil => simp [keys]
  | cons entry rest ih =>
      rw [get?_cons]
      show _ ↔ key.asKey ∉ entry.1.asKey :: (keys rest).map Scalar.asKey
      rw [List.mem_cons, not_or, ← ih]
      by_cases hkey : entry.1.asKey = key.asKey
      · simp [hkey]
      · simp [hkey, Ne.symm hkey]

theorem HasDistinctKeys.of_cons {entry : Scalar × α} (h : HasDistinctKeys (entry :: entries)) :
    get? entries entry.1 = none ∧ HasDistinctKeys entries := by
  obtain ⟨hfirst, hrest⟩ := List.nodup_cons.mp h
  exact ⟨get?_eq_none_iff.mpr hfirst, hrest⟩

/-- When each key is there once, an entry is what its key leads to. -/
theorem get?_eq_some_iff (h : entries.HasDistinctKeys) {value : α} :
    get? entries key = some value ↔ ∃ entry ∈ entries, entry.1.asKey = key.asKey ∧
      entry.2 = value := by
  induction entries with
  | nil => simp
  | cons entry rest ih =>
      obtain ⟨hfirst, hrest⟩ := h.of_cons
      rw [get?_cons]
      split
      · next hkey =>
          -- no other entry has that key
          have hothers : ∀ other ∈ rest, other.1.asKey ≠ key.asKey := by
            intro other hother hsame
            rw [get?_eq_none_iff, hkey, ← hsame] at hfirst
            exact hfirst (List.mem_map_of_mem (List.mem_map_of_mem hother))
          constructor
          · intro hvalue
            exact ⟨entry, List.mem_cons_self, hkey, Option.some.inj hvalue⟩
          · rintro ⟨other, hother, hsame, rfl⟩
            rcases List.mem_cons.mp hother with rfl | hother
            · rfl
            · exact absurd hsame (hothers other hother)
      · next hkey => simp [ih hrest, hkey]

/-- **The order of the entries does not matter** when each key is there once. -/
theorem get?_eq_of_perm (h : entries.HasDistinctKeys) (hperm : entries.Perm other) (key : Scalar) :
    get? entries key = get? other key := by
  have hother : other.HasDistinctKeys := ((hperm.map _).map _).nodup_iff.mp h
  ext value
  rw [get?_eq_some_iff h, get?_eq_some_iff hother]
  simp only [hperm.mem_iff]

/-- **A mapping is determined** by its keys in order and by what belongs to them. -/
theorem eq_of_keys (hdistinct : entries.HasDistinctKeys) (hkeys : entries.keys = other.keys)
    (h : ∀ key, get? entries key = get? other key) : entries = other := by
  induction entries generalizing other with
  | nil => exact (List.map_eq_nil_iff.mp hkeys.symm).symm
  | cons entry rest ih =>
      obtain ⟨key, value⟩ := entry
      obtain _ | ⟨⟨key', value'⟩, rest'⟩ := other
      · cases hkeys
      · have hdistinct' : HasDistinctKeys ((key', value') :: rest') := by
          unfold HasDistinctKeys at hdistinct ⊢
          rwa [← hkeys]
        obtain ⟨rfl, hrest⟩ : key = key' ∧ keys rest = keys rest' := List.cons.inj hkeys
        have hfirst : value = value' := by
          have hkey := h key
          rw [get?_cons, get?_cons, if_pos rfl, if_pos rfl] at hkey
          exact Option.some.inj hkey
        have hothers : ∀ other, get? rest other = get? rest' other := by
          intro other
          by_cases hother : key.asKey = other.asKey
          · rw [← get?_congr hother, ← get?_congr hother, hdistinct.of_cons.1, hdistinct'.of_cons.1]
          · have hkey := h other
            rwa [get?_cons, get?_cons, if_neg hother, if_neg hother] at hkey
        rw [hfirst, ih hdistinct.of_cons.2 hrest hothers]

theorem keys_insert (entries : Entries α) (key : Scalar) (value : α) :
    (entries.insert key value).keys =
      entries.keys ++ if (get? entries key).isSome then [] else [key] := by
  induction entries with
  | nil => rfl
  | cons entry rest ih =>
      rw [insert, get?_cons]
      split
      · simp [keys]
      · show entry.1 :: keys (insert rest key value) = _
        rw [ih]
        rfl

theorem HasDistinctKeys.insert (h : entries.HasDistinctKeys) (key : Scalar) (value : α) :
    (entries.insert key value).HasDistinctKeys := by
  unfold HasDistinctKeys at h ⊢
  rw [keys_insert, List.map_append]
  cases hkey : get? entries key with
  | some found => simpa using h
  | none =>
      rw [get?_eq_none_iff] at hkey
      exact List.nodup_append.mpr ⟨h, by simp, by simpa using hkey⟩

end Entries

namespace Section

open SettingsPlace (placeWith inWork)

/-! ## The values of one key -/

/-- What a value is when it is put over another one: a list of a list field goes behind a list. -/
def joined (isList : Bool) : Option Value → Value → Value
  | some (.list earlier), .list items => if isList then .list (earlier ++ items) else .list items
  | _, value => value

/-- What a key has in two layers, the second of which counts more. -/
def combined (isList : Bool) (below : Option Value) : Option Value → Option Value
  | none => below
  | some value => some (joined isList below value)

/-- Nothing, or a list. -/
def IsListed : Option Value → Prop
  | none | some (.list _) => True
  | some _ => False

instance : DecidablePred IsListed
  | none | some (.list _) => .isTrue trivial
  | some (.scalar _) | some (.set _) | some (.mapping _) => .isFalse id

theorem IsListed.exists_eq {value : Value} (h : IsListed (some value)) :
    ∃ items, value = .list items := by
  cases value with
  | list items => exact ⟨items, rfl⟩
  | _ => cases h

@[simp] theorem joined_false (below : Option Value) (value : Value) :
    joined false below value = value := by
  rcases below with _ | below
  · rfl
  · cases below <;> cases value <;> rfl

theorem isListed_joined {below : Option Value} {value : Value} (h : IsListed (some value)) :
    IsListed (some (joined true below value)) := by
  obtain ⟨items, rfl⟩ := h.exists_eq
  rcases below with _ | below
  · exact trivial
  · cases below <;> exact trivial

theorem combined_none (isList : Bool) (above : Option Value) :
    combined isList none above = above := by
  cases above <;> rfl

theorem combined_false (below above : Option Value) :
    combined false below above = above.or below := by
  cases above <;> simp [combined]

theorem combined_eq_none_iff {isList : Bool} {below above : Option Value} :
    combined isList below above = none ↔ below = none ∧ above = none := by
  cases above <;> simp [combined]

/-- **Putting values over one another is associative.** -/
theorem combined_assoc {isList : Bool} {first second third : Option Value}
    (h : isList = true → IsListed second) :
    combined isList (combined isList first second) third =
      combined isList first (combined isList second third) := by
  cases isList with
  | false => simp only [combined_false, Option.or_assoc]
  | true =>
      rcases second with _ | second
      · rw [combined_none]
        rfl
      · obtain ⟨items, rfl⟩ := (h rfl).exists_eq
        rcases third with _ | third
        · rfl
        · rcases first with _ | first
          · simp [combined_none]
          · cases first <;> cases third <;> simp [combined, joined]

/-! ## Layers -/

/-- A section in which each key is there once, and what a list field has is a list. -/
structure IsLayer (entries : Mapping) : Prop where
  distinct : entries.HasDistinctKeys
  lists : ∀ field ∈ Options.listFields, IsListed (entries.get? (.text field))

theorem exists_of_isListField {key : Scalar} (h : isListField key = true) :
    ∃ field ∈ Options.listFields, key = .text field := by
  cases key with
  | text field => exact ⟨field, List.contains_iff_mem.mp h, rfl⟩
  | _ => cases h

theorem isListField_text {field : String} (h : field ∈ Options.listFields) :
    isListField (.text field) = true :=
  List.contains_iff_mem.mpr h

/-- Keys that are the same are both keys of list fields, or none is. -/
theorem isListField_congr {key other : Scalar} (h : key.asKey = other.asKey) :
    isListField key = isListField other := by
  have himp : ∀ {key other : Scalar}, key.asKey = other.asKey → isListField key = true →
      isListField other = true := by
    intro key other hsame hkey
    obtain ⟨field, hfield, rfl⟩ := exists_of_isListField hkey
    rw [Scalar.eq_text_of_asKey hsame.symm]
    exact hkey
  exact Bool.eq_iff_iff.mpr ⟨himp h, himp h.symm⟩

section IsLayer

variable {base overlay rest : Mapping} {key : Scalar} {value : Value}

theorem IsLayer.isListed (h : IsLayer base) (hkey : isListField key = true) :
    IsListed (base.get? key) := by
  obtain ⟨field, hfield, rfl⟩ := exists_of_isListField hkey
  exact h.lists field hfield

theorem isLayer_nil : IsLayer [] := ⟨List.nodup_nil, fun _ _ => trivial⟩

theorem IsLayer.of_cons (h : IsLayer ((key, value) :: rest)) :
    (isListField key = true → IsListed (some value)) ∧ rest.get? key = none ∧ IsLayer rest := by
  obtain ⟨hnone, hrest⟩ := h.distinct.of_cons
  refine ⟨fun hkey => ?_, hnone, hrest, fun field hfield => ?_⟩
  · have hlisted := h.isListed hkey
    rwa [Entries.get?_cons, if_pos rfl] at hlisted
  · have hlisted := h.lists field hfield
    rw [Entries.get?_cons] at hlisted
    split at hlisted
    · next hsame =>
        rw [← Entries.get?_congr hsame, hnone]
        exact trivial
    · exact hlisted

/-- **One entry that is put over a layer** is put over what the layer has for its key. -/
theorem IsLayer.mergeEntry_eq (h : IsLayer base)
    (hvalue : isListField key = true → IsListed (some value)) :
    mergeEntry base (key, value) =
      .ok (base.insert key (joined (isListField key) (base.get? key) value)) := by
  cases hkey : isListField key with
  | false =>
      rw [joined_false]
      refine mergeEntry_of_ne (fun field hfield items hsame _ => ?_) base
      rw [hsame, isListField_text hfield] at hkey
      cases hkey
  | true =>
      obtain ⟨items, rfl⟩ := (hvalue hkey).exists_eq
      obtain ⟨field, hfield, rfl⟩ := exists_of_isListField hkey
      rw [mergeEntry_list hfield, earlierItems]
      cases hpresent : base.get? (.text field) with
      | none => rfl
      | some present =>
          have hlisted := h.lists field hfield
          rw [hpresent] at hlisted
          obtain ⟨earlier, rfl⟩ := hlisted.exists_eq
          rfl

theorem IsLayer.insert (h : IsLayer base)
    (hvalue : isListField key = true → IsListed (some value)) : IsLayer (base.insert key value) := by
  refine ⟨h.distinct.insert key value, fun field hfield => ?_⟩
  by_cases hsame : key = .text field
  · rw [hsame, Entries.get?_insert_self]
    exact hvalue (hsame ▸ isListField_text hfield)
  · rw [get?_insert_of_key_ne hsame]
    exact h.lists field hfield

/-- What a section is that comes of putting a layer over another one. -/
structure IsMergeOf (merged base overlay : Mapping) : Prop where
  isLayer : IsLayer merged
  keys : merged.keys = base.keys ++ overlay.keys.filter fun key => (base.get? key).isNone
  get? (key : Scalar) :
    merged.get? key = combined (isListField key) (base.get? key) (overlay.get? key)

/-- **Layers can be merged**, key by key. -/
theorem IsLayer.exists_merge (hbase : IsLayer base) (hoverlay : IsLayer overlay) :
    ∃ merged, merge base overlay = .ok merged ∧ IsMergeOf merged base overlay := by
  unfold merge
  induction overlay generalizing base with
  | nil => exact ⟨base, rfl, hbase, (List.append_nil _).symm, fun _ => rfl⟩
  | cons entry rest ih =>
      obtain ⟨key, value⟩ := entry
      obtain ⟨hvalue, hnone, hrest⟩ := hoverlay.of_cons
      rw [List.foldlM_cons, hbase.mergeEntry_eq hvalue]
      have hmiddle : IsLayer
          (base.insert key (joined (isListField key) (base.get? key) value)) :=
        hbase.insert fun hkey => by
          rw [hkey]
          exact isListed_joined (hvalue hkey)
      obtain ⟨merged, hmerged, hlayer, hkeys, hget⟩ := ih hmiddle hrest
      refine ⟨merged, hmerged, hlayer, ?_, fun other => ?_⟩
      · -- the keys of the rest are other keys, so those that are new stay new
        have hrestKeys : (Entries.keys rest).filter (fun other => ((base.insert key
            (joined (isListField key) (base.get? key) value)).get? other).isNone) =
              (Entries.keys rest).filter fun other => (base.get? other).isNone := by
          refine List.filter_congr fun other hother => ?_
          have hne : other.asKey ≠ key.asKey := fun hsame =>
            Entries.get?_eq_none_iff.mp hnone (hsame ▸ List.mem_map_of_mem hother)
          rw [Entries.get?_insert_of_ne hne]
        rw [hkeys, hrestKeys, Entries.keys_insert, List.append_assoc]
        show _ = base.keys ++ (key :: Entries.keys rest).filter _
        rw [List.filter_cons]
        cases base.get? key <;> rfl
      · rw [hget, Entries.get?_cons]
        split
        · next hsame =>
            rw [← Entries.get?_congr hsame, ← Entries.get?_congr hsame, ← Entries.get?_congr hsame,
              ← isListField_congr hsame, hnone, Entries.get?_insert_self]
            rfl
        · next hsame => rw [Entries.get?_insert_of_ne (Ne.symm hsame)]

/-- The section without entries changes nothing below a layer. -/
theorem IsLayer.nil_merge (h : IsLayer base) : merge [] base = .ok base := by
  obtain ⟨merged, hmerged, hlayer, hkeys, hget⟩ := isLayer_nil.exists_merge h
  rw [hmerged]
  refine congrArg Except.ok (Entries.eq_of_keys hlayer.distinct ?_ fun key => ?_)
  · rw [hkeys]
    simp [Entries.keys]
  · rw [hget, Entries.get?_nil, combined_none]

/-- **Merging layers is associative.** -/
theorem IsLayer.merge_assoc {first second third : Mapping} (hfirst : IsLayer first)
    (hsecond : IsLayer second) (hthird : IsLayer third) :
    ∃ merged, IsLayer merged ∧
      (∀ key, merged.get? key = combined (isListField key)
        (combined (isListField key) (first.get? key) (second.get? key)) (third.get? key)) ∧
      (∀ key ∈ merged.keys, key ∈ first.keys ∨ key ∈ second.keys ∨ key ∈ third.keys) ∧
      (merge first second).bind (fun base => merge base third) = .ok merged ∧
      (merge second third).bind (merge first) = .ok merged := by
  obtain ⟨front, hfront, hfrontIs⟩ := hfirst.exists_merge hsecond
  obtain ⟨merged, hmerged, hmergedIs⟩ := hfrontIs.isLayer.exists_merge hthird
  obtain ⟨back, hback, hbackIs⟩ := hsecond.exists_merge hthird
  obtain ⟨other, hother, hotherIs⟩ := hfirst.exists_merge hbackIs.isLayer
  have hget : ∀ key, merged.get? key = combined (isListField key)
      (combined (isListField key) (first.get? key) (second.get? key)) (third.get? key) :=
    fun key => by rw [hmergedIs.get?, hfrontIs.get?]
  have hkeys : merged.keys = first.keys ++
      (second.keys.filter (fun key => (first.get? key).isNone) ++
        third.keys.filter fun key => (front.get? key).isNone) := by
    rw [hmergedIs.keys, hfrontIs.keys, List.append_assoc]
  have hsame : other = merged := by
    refine Entries.eq_of_keys hotherIs.isLayer.distinct ?_ fun key => ?_
    · -- a key is new to the first two layers if it is new to each of them
      rw [hkeys, hotherIs.keys, hbackIs.keys, List.filter_append, List.filter_filter]
      congr 2
      refine List.filter_congr fun key _ => Bool.eq_iff_iff.mpr ?_
      rw [Bool.and_eq_true, Option.isNone_iff_eq_none, Option.isNone_iff_eq_none,
        Option.isNone_iff_eq_none, hfrontIs.get?, combined_eq_none_iff]
    · rw [hget, hotherIs.get?, hbackIs.get?, combined_assoc hsecond.isListed]
  refine ⟨merged, hmergedIs.isLayer, hget, fun key hkey => ?_, ?_, ?_⟩
  · rw [hkeys] at hkey
    rcases List.mem_append.mp hkey with hkey | hkey
    · exact .inl hkey
    · rcases List.mem_append.mp hkey with hkey | hkey
      · exact .inr (.inl (List.mem_filter.mp hkey).1)
      · exact .inr (.inr (List.mem_filter.mp hkey).1)
  · rw [hfront]
    exact hmerged
  · rw [hback, ← hsame]
    exact hother

end IsLayer

/-! ## Three layers -/

/-- The items of a list, none for anything else. -/
def itemsIn : Option Value → List Value
  | some (.list items) => items
  | _ => []

theorem IsListed.eq_list {value : Value} (h : IsListed (some value)) :
    value = .list (itemsIn (some value)) := by
  obtain ⟨items, rfl⟩ := h.exists_eq
  rfl

theorem itemsIn_combined {below above : Option Value} (hbelow : IsListed below)
    (habove : IsListed above) :
    itemsIn (combined true below above) = itemsIn below ++ itemsIn above := by
  rcases above with _ | above
  · simp [combined, itemsIn]
  · obtain ⟨items, rfl⟩ := habove.exists_eq
    rcases below with _ | below
    · rfl
    · obtain ⟨earlier, rfl⟩ := hbelow.exists_eq
      rfl

theorem isListed_combined {below above : Option Value} (hbelow : IsListed below)
    (habove : IsListed above) : IsListed (combined true below above) := by
  cases above with
  | none => exact hbelow
  | some value => exact isListed_joined habove

/-- Scopes are merged one after another. -/
theorem foldlM_all (sections : Scope → Mapping) :
    Scope.all.foldlM (fun base scope => merge base (sections scope)) [] =
      (merge [] (sections .user)).bind fun base =>
        (merge base (sections .project)).bind fun base => merge base (sections .machine) := by
  show (merge [] (sections .user)).bind (fun base => (merge base (sections .project)).bind
    fun base => (merge base (sections .machine)).bind .ok) = _
  congr 2
  funext base
  congr 2
  funext base
  cases merge base (sections .machine) <;> rfl

/-- **What three layers come to.** Each list field has the items of all scopes in order, each other
key has what the most specific scope has that has the key, and it makes no difference which two
layers are merged first. -/
theorem merged_of_layers (sections : Scope → Mapping) (hlayers : ∀ scope, IsLayer (sections scope)) :
    ∃ merged : Mapping,
      Scope.all.foldlM (fun base scope => merge base (sections scope)) [] = .ok merged ∧
      (∀ (settings : SettingsPlace) (place : Place), settings.isHomeless = false →
        (∀ scope, settings.sectionAt place scope = .ok (sections scope)) →
          settings.merged.run.outcome place = .ok merged) ∧
      (∀ field ∈ Options.listFields,
        (merged.get? (.text field) = none ↔ ∀ scope, (sections scope).get? (.text field) = none) ∧
        ∀ value, merged.get? (.text field) = some value →
          value = .list (Scope.all.flatMap fun scope =>
            itemsIn ((sections scope).get? (.text field)))) ∧
      (∀ key, isListField key = false →
        merged.get? key = Scope.all.reverse.findSome? fun scope => (sections scope).get? key) ∧
      merged.HasDistinctKeys ∧
      (∀ key ∈ merged.keys, ∃ scope, key ∈ (sections scope).keys) ∧
      (merge (sections .user) (sections .project)).bind
        (fun base => merge base (sections .machine)) = .ok merged ∧
      (merge (sections .project) (sections .machine)).bind (merge (sections .user)) = .ok merged ∧
      ∀ scope, merge [] (sections scope) = .ok (sections scope) ∧
        merge (sections scope) [] = .ok (sections scope) := by
  obtain ⟨merged, hlayer, hget, hkeys, hleft, hright⟩ :=
    (hlayers .user).merge_assoc (hlayers .project) (hlayers .machine)
  have hfold : Scope.all.foldlM (fun base scope => merge base (sections scope)) [] =
      .ok merged := by
    rw [foldlM_all, (hlayers .user).nil_merge]
    exact hleft
  -- each law is read off the two merges that the associative law says are the same
  refine ⟨merged, hfold, fun settings place hhome hsections => ?_, fun field hfield => ⟨?_, ?_⟩,
    fun key hkey => ?_, hlayer.distinct, fun key hkey => ?_, hleft, hright,
    fun scope => ⟨(hlayers scope).nil_merge, rfl⟩⟩
  · rw [SettingsPlace.outcome_merged, hhome, ← hfold]
    simp only [hsections, Except.bind]
    rfl
  · rw [hget, combined_eq_none_iff, combined_eq_none_iff]
    constructor
    · rintro ⟨⟨huser, hproject⟩, hmachine⟩ scope
      cases scope <;> assumption
    · exact fun h => ⟨⟨h .user, h .project⟩, h .machine⟩
  · intro value hvalue
    have hlisted := fun scope => (hlayers scope).lists field hfield
    have hvalueListed := hlayer.lists field hfield
    rw [hvalue] at hvalueListed
    rw [hvalueListed.eq_list, ← hvalue, hget, isListField_text hfield,
      itemsIn_combined (isListed_combined (hlisted .user) (hlisted .project)) (hlisted .machine),
      itemsIn_combined (hlisted .user) (hlisted .project)]
    simp [Scope.all]
  · have hscopes : Scope.all.reverse = [.machine, .project, .user] := rfl
    rw [hget, hkey, combined_false, combined_false, hscopes]
    simp only [List.findSome?_cons, List.findSome?_nil]
    cases (sections .machine).get? key <;> cases (sections .project).get? key <;>
      cases (sections .user).get? key <;> rfl
  · rcases hkeys key hkey with hkey | hkey | hkey
    · exact ⟨.user, hkey⟩
    · exact ⟨.project, hkey⟩
    · exact ⟨.machine, hkey⟩

/-- Three scopes that give lists for the same field and a truth value for another one. -/
theorem merged_of_layers_overlapping :
    let place := placeWith
      (some (Utf8.encode "resolver: \x7bextra_extensions: [vue], retry_from_parent: false\x7d"))
      (some (Utf8.encode "resolver: \x7bextra_extensions: [svelte], extra_package_fields: []\x7d"))
      (some (Utf8.encode "resolver: \x7bretry_from_parent: true, extra_extensions: [vue]\x7d"))
    let sections : Scope → Mapping
      | .user => [(.text "extra_extensions", .list [.text "vue"]),
        (.text "retry_from_parent", .bool false)]
      | .project => [(.text "extra_extensions", .list [.text "svelte"]),
        (.text "extra_package_fields", .list [])]
      | .machine => [(.text "retry_from_parent", .bool true),
        (.text "extra_extensions", .list [.text "vue"])]
    (∀ scope, IsLayer (sections scope)) ∧
      ∃ merged, inWork.merged.run.outcome place = .ok merged ∧
        merged.get? (.text "extra_extensions") =
          some (.list [.text "vue", .text "svelte", .text "vue"]) ∧
        merged.get? (.text "extra_package_fields") = some (.list []) ∧
        merged.get? (.text "extra_builtin_modules") = none ∧
        merged.get? (.text "retry_from_parent") = some (.bool true) := by
  intro place sections
  have hlayers : ∀ scope, IsLayer (sections scope) := by
    intro scope
    cases scope <;> exact ⟨by decide +kernel, by decide +kernel⟩
  have hsections : ∀ scope, inWork.sectionAt place scope = .ok (sections scope) := by
    intro scope
    cases scope <;> decide +kernel
  obtain ⟨merged, -, hsettings, hlists, hothers, -⟩ := merged_of_layers sections hlayers
  -- a list field that some scope has is the items of all scopes
  have hlist : ∀ field ∈ Options.listFields, ∀ items,
      (∃ scope, (sections scope).get? (.text field) ≠ none) →
      (Scope.all.flatMap fun scope => itemsIn ((sections scope).get? (.text field))) = items →
        merged.get? (.text field) = some (.list items) := by
    intro field hfield items hthere hitems
    obtain ⟨hnone, hsome⟩ := hlists field hfield
    cases hvalue : merged.get? (.text field) with
    | none =>
        obtain ⟨scope, hscope⟩ := hthere
        exact absurd (hnone.mp hvalue scope) hscope
    | some value => rw [hsome value hvalue, hitems]
  refine ⟨hlayers, merged, hsettings inWork place (by decide +kernel) hsections,
    hlist _ (by decide) _ ⟨.user, by decide⟩ (by decide), hlist _ (by decide) _
      ⟨.project, by decide⟩ (by decide), ?_, ?_⟩
  · refine (hlists _ (by decide)).1.mpr fun scope => ?_
    cases scope <;> decide
  · rw [hothers _ (by decide)]
    decide

end Section

end ModuleResolution
