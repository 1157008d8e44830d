import ModuleResolution.Proofs.Yaml.Changed

/-! # Values that are added to a document

The parts that are added for a value show that value, and none of the parts that were there before
is met from them (`shows_addValue`).
-/

set_option autoImplicit false

namespace ModuleResolution.Yaml.Document

variable {document other : Document} {bound number : Nat} {value : Value}

/-- The part and those below it are not among the first parts, and they show the value. -/
structure Shows (document : Document) (bound number : Nat) (value : Value) : Prop where
  size : number < document.parts.size
  look : document.lookFrom number = value.look
  fresh (path : List Step) (inner : Nat) (h : document.follow number path = some inner) :
    bound ≤ inner

theorem Shows.of_keeps (h : document.Shows bound number value) (hclosed : document.IsClosed)
    (hkeeps : Keeps (fun _ => False) document other) : other.Shows bound number value := by
  refine ⟨Nat.lt_of_lt_of_le h.size hkeeps.size, ?_, fun path inner hinner => ?_⟩
  · rw [lookFrom_of_keeps hkeeps hclosed h.size fun _ _ _ => not_false, h.look]
  · rw [follow_of_keeps hkeeps hclosed h.size fun _ _ _ _ _ _ => not_false] at hinner
    exact h.fresh path inner hinner

theorem Shows.of_le (h : document.Shows bound number value) {less : Nat} (hle : less ≤ bound) :
    document.Shows less number value :=
  ⟨h.size, h.look, fun path inner hinner => Nat.le_trans hle (h.fresh path inner hinner)⟩

/-- A part shows a value if each step leads to a part that shows where it leads in the value. -/
theorem shows_of_next? (hsize : number < document.parts.size) (hbound : bound ≤ number)
    (hshape : document.shape number = value.shape)
    (hnext : ∀ step, Option.Rel (document.Shows bound) (document.next? number step)
      (value.next? step)) : document.Shows bound number value := by
  refine ⟨hsize, lookFrom_eq_of_next? hshape fun step => ?_, fun path inner h => ?_⟩
  · exact rel_mono (fun _ _ h => h.look) (hnext step)
  · cases path with
    | nil => exact Option.some.inj h ▸ hbound
    | cons step rest =>
        have hstep := hnext step
        rw [follow] at h
        generalize document.next? number step = inner?, value.next? step = below? at hstep h
        cases hstep with
        | none => cases h
        | some hinner => exact hinner.fresh rest inner h

theorem exists_of_mem_left {α β : Type} {rel : α → β → Prop} {items : List α} {others : List β}
    (h : List.Forall₂ rel items others) : ∀ item ∈ items, ∃ other, rel item other := by
  induction h with
  | nil => exact nofun
  | cons hfirst _ ih =>
      intro item hitem
      rcases List.mem_cons.mp hitem with rfl | hitem
      · exact ⟨_, hfirst⟩
      · exact ih item hitem

/-- The entry is one of the key and the value. -/
structure ShowsEntry (document : Document) (bound : Nat) (entry : Nat × Nat)
    (shown : Scalar × Value) : Prop where
  size : entry.1 < document.parts.size
  key : document.scalarAt entry.1 = shown.1
  value : document.Shows bound entry.2 shown.2

theorem ShowsEntry.of_keeps {entry : Nat × Nat} {shown : Scalar × Value}
    (h : document.ShowsEntry bound entry shown) (hclosed : document.IsClosed)
    (hkeeps : Keeps (fun _ => False) document other) : other.ShowsEntry bound entry shown :=
  ⟨Nat.lt_of_lt_of_le h.size hkeeps.size, (hkeeps.scalars _ h.size).trans h.key,
    h.value.of_keeps hclosed hkeeps⟩

theorem ShowsEntry.of_le {entry : Nat × Nat} {shown : Scalar × Value}
    (h : document.ShowsEntry bound entry shown) {less : Nat} (hle : less ≤ bound) :
    document.ShowsEntry less entry shown :=
  ⟨h.size, h.key, h.value.of_le hle⟩

/-! ## Parts of values -/

/-- A part that is added behind the parts below it. -/
theorem shows_add {part : Part} (hbound : bound ≤ document.parts.size)
    (hshape : (document.add part).2.shape document.parts.size = value.shape)
    (hnext : ∀ step, Option.Rel ((document.add part).2.Shows bound)
      ((document.add part).2.next? document.parts.size step) (value.next? step)) :
    (document.add part).2.Shows bound document.parts.size value :=
  shows_of_next? (size_lt_add ..) hbound hshape hnext

theorem part_add_self (document : Document) (part : Part) :
    (document.add part).2.part document.parts.size = part := (part_add ..).trans (if_pos rfl)

theorem shows_add_scalar (document : Document) (s : Scalar) :
    (document.add (.scalar s)).2.Shows document.parts.size document.parts.size (.scalar s) := by
  have hpart := part_add_self document (.scalar s)
  refine shows_add (Nat.le_refl _) (shape_of_scalar hpart) fun step => ?_
  rw [next?_of_scalar hpart]
  exact .none

theorem shows_add_list {items : List Nat} {values : List Value} (hclosed : document.IsClosed)
    (hbound : bound ≤ document.parts.size)
    (hitems : List.Forall₂ (document.Shows bound) items values) :
    (document.add (.list items)).2.Shows bound document.parts.size (.list values) := by
  have hpart := part_add_self document (.list items)
  have hlater : List.Forall₂ ((document.add (.list items)).2.Shows bound) items values :=
    hitems.imp fun _ _ h => h.of_keeps hclosed (keeps_add document _)
  refine shows_add hbound ?_ fun step => ?_
  · rw [shape_of_list hpart, hitems.length_eq]
    rfl
  · cases step with
    | key key =>
        rw [next?_of_list_key hpart]
        exact .none
    | item index =>
        rw [next?_of_item hpart]
        exact rel_getElem? hlater index

theorem shows_add_mapping {entries : List (Nat × Nat)} {values : Mapping}
    (hclosed : document.IsClosed) (hbound : bound ≤ document.parts.size)
    (hentries : List.Forall₂ (document.ShowsEntry bound) entries values) :
    (document.add (.mapping entries)).2.Shows bound document.parts.size (.mapping values) := by
  have hpart := part_add_self document (.mapping entries)
  have hkeeps : Keeps (fun _ => False) document (document.add (.mapping entries)).2 :=
    keeps_add document _
  have hlater : List.Forall₂ ((document.add (.mapping entries)).2.ShowsEntry bound) entries
      values := hentries.imp fun _ _ h => h.of_keeps hclosed hkeeps
  refine shows_add hbound (shape_of_mapping hpart) fun step => ?_
  cases step with
  | item index =>
      rw [next?_of_mapping_item hpart]
      exact .none
  | key key =>
      rw [next?_of_key hpart]
      exact rel_find? (hlater.imp fun _ _ h => ⟨h.key, h.value⟩) key

/-- The parts that are added for the members of a set. -/
theorem exists_of_foldl_add (hclosed : document.IsClosed) (members : List Scalar)
    (numbers : List Nat) :
    ∃ added after, members.foldl (fun (numbers, document) member =>
        let (number, document) := Document.add document (.scalar member)
        (numbers ++ [number], document)) (numbers, document) = (numbers ++ added, after) ∧
      after.IsClosed ∧ Keeps (fun _ => False) document after ∧
      List.Forall₂ (fun number member => number < after.parts.size ∧
        after.scalarAt number = member) added members := by
  induction members generalizing document numbers with
  | nil => exact ⟨[], document, by simp, hclosed, .refl _ _, .nil⟩
  | cons member rest ih =>
      have hkeeps : Keeps (fun _ => False) document (document.add (.scalar member)).2 :=
        keeps_add document _
      have hsize : document.parts.size < (document.add (.scalar member)).2.parts.size :=
        size_lt_add ..
      obtain ⟨added, after, hfold, hclosed', hkeeps', hadded⟩ :=
        ih (isClosed_add hclosed (show Part.IsBelow _ (.scalar member) from trivial))
          (numbers ++ [document.parts.size])
      refine ⟨document.parts.size :: added, after, ?_, hclosed', hkeeps.trans hkeeps',
        .cons ⟨Nat.lt_of_lt_of_le hsize hkeeps'.size, ?_⟩ hadded⟩
      · rw [List.foldl_cons, List.append_cons]
        exact hfold
      · rw [hkeeps'.scalars _ hsize]
        exact scalarAt_of_part (part_add_self document _)

theorem shows_add_set {numbers : List Nat} {members : List Scalar}
    (hbound : bound ≤ document.parts.size)
    (hmembers : List.Forall₂ (fun number member => number < document.parts.size ∧
      document.scalarAt number = member) numbers members) :
    (document.add (.set numbers)).2.Shows bound document.parts.size (.set members) := by
  have hpart := part_add_self document (.set numbers)
  have hkeeps : Keeps (fun _ => False) document (document.add (.set numbers)).2 :=
    keeps_add document _
  refine shows_add hbound ?_ fun step => ?_
  · unfold shape
    rw [hpart]
    refine congrArg Shape.set (funext fun key => ?_)
    clear hpart
    generalize (document.add (.set numbers)).2 = after at hkeeps ⊢
    induction hmembers with
    | nil => rfl
    | cons hfirst _ ih =>
        rw [List.any_cons, List.any_cons, ih, hkeeps.scalars _ hfirst.1, hfirst.2]
  · unfold next?
    rw [hpart]
    cases step <;> exact .none

mutual

/-- **The parts that are added for a value show it.** -/
theorem shows_addValue (document : Document) (hclosed : document.IsClosed) : (value : Value) →
    (document.addValue value).2.IsClosed ∧
      Keeps (fun _ => False) document (document.addValue value).2 ∧
      (document.addValue value).2.Shows document.parts.size (document.addValue value).1 value
  | .scalar s => ⟨isClosed_add hclosed trivial, keeps_add _ _, shows_add_scalar document s⟩
  | .list items => by
      obtain ⟨hadded, hkeeps, hitems⟩ := shows_addValues document hclosed items
      refine ⟨isClosed_add hadded fun item hitem => ?_, hkeeps.trans (keeps_add _ _),
        shows_add_list hadded hkeeps.size hitems⟩
      obtain ⟨_, hshows⟩ := exists_of_mem_left hitems item hitem
      exact hshows.size
  | .set members => by
      obtain ⟨numbers, after, hfold, hadded, hkeeps, hmembers⟩ :=
        exists_of_foldl_add hclosed members []
      rw [addValue, hfold, List.nil_append]
      refine ⟨isClosed_add hadded fun number hnumber => ?_, hkeeps.trans (keeps_add _ _),
        shows_add_set hkeeps.size hmembers⟩
      obtain ⟨_, hsize, -⟩ := exists_of_mem_left hmembers number hnumber
      exact hsize
  | .mapping entries => by
      obtain ⟨hadded, hkeeps, hentries⟩ := shows_addEntries document hclosed entries
      refine ⟨isClosed_add hadded fun entry hentry => ?_, hkeeps.trans (keeps_add _ _),
        shows_add_mapping hadded hkeeps.size hentries⟩
      obtain ⟨_, hshows⟩ := exists_of_mem_left hentries entry hentry
      exact ⟨hshows.size, hshows.value.size⟩

theorem shows_addValues (document : Document) (hclosed : document.IsClosed) :
    (items : List Value) → (document.addValues items).2.IsClosed ∧
      Keeps (fun _ => False) document (document.addValues items).2 ∧
      List.Forall₂ ((document.addValues items).2.Shows document.parts.size)
        (document.addValues items).1 items
  | [] => ⟨hclosed, .refl _ _, .nil⟩
  | item :: rest => by
      obtain ⟨hfirst, hkeeps, hitem⟩ := shows_addValue document hclosed item
      obtain ⟨hclosed', hkeeps', hrest⟩ :=
        shows_addValues (document.addValue item).2 hfirst rest
      exact ⟨hclosed', hkeeps.trans hkeeps', .cons (hitem.of_keeps hfirst hkeeps')
        (hrest.imp fun _ _ h => h.of_le hkeeps.size)⟩

theorem shows_addEntries (document : Document) (hclosed : document.IsClosed) :
    (entries : List (Scalar × Value)) → (document.addEntries entries).2.IsClosed ∧
      Keeps (fun _ => False) document (document.addEntries entries).2 ∧
      List.Forall₂ ((document.addEntries entries).2.ShowsEntry document.parts.size)
        (document.addEntries entries).1 entries
  | [] => ⟨hclosed, .refl _ _, .nil⟩
  | (key, item) :: rest => by
      have hkey : Keeps (fun _ => False) document (document.add (.scalar key)).2 :=
        keeps_add document _
      have hsize : document.parts.size < (document.add (.scalar key)).2.parts.size :=
        size_lt_add ..
      obtain ⟨hfirst, hkeeps, hitem⟩ := shows_addValue (document.add (.scalar key)).2
        (isClosed_add hclosed (show Part.IsBelow _ (.scalar key) from trivial)) item
      obtain ⟨hclosed', hkeeps', hrest⟩ := shows_addEntries _ hfirst rest
      have hvalue := (hitem.of_keeps hfirst hkeeps').of_le hkey.size
      have hall := hkeeps.trans hkeeps'
      refine ⟨hclosed', hkey.trans hall, .cons ⟨?_, ?_, hvalue⟩
        (hrest.imp fun _ _ h => h.of_le (hkey.trans hkeeps).size)⟩
      · exact Nat.lt_of_lt_of_le hsize hall.size
      · exact (hall.scalars _ hsize).trans (scalarAt_of_part (part_add_self document _))

end

end ModuleResolution.Yaml.Document
