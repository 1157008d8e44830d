import ModuleResolution.Proofs.Yaml.Composed
import ModuleResolution.Yaml.Reader

/-! # Documents that are read are sound

In a document that is read the numbers of items and values are numbers of parts, keys are scalars,
and no two keys of a mapping are the same, except for numbers that are undefined
(`Document.isSound_of_parse`). The graph of a text is closed, and it stays closed when merge keys are
taken out of it. While the parts are built from it a scalar that is there stays as it is, and so
does the difference between two keys.
-/

set_option autoImplicit false

namespace ModuleResolution.Yaml

/-! ## Sound documents -/

/-- Two keys are told apart, unless they are undefined numbers. -/
def AreApart (key other : Scalar) : Prop :=
  key.asKey = other.asKey → key = .real .undefined

namespace Document

/-- The number is that of a scalar. -/
def IsScalar (document : Document) (number : Nat) : Prop :=
  number < document.parts.size ∧ ∃ s, document.part number = .scalar s

/-- The numbers in a part are numbers of a document, its keys are scalars and told apart. -/
def Admits (document : Document) : Part → Prop
  | .scalar _ => True
  | .list items => ∀ item ∈ items, item < document.parts.size
  | .set members => ∀ member ∈ members, document.IsScalar member
  | .mapping entries =>
    (∀ entry ∈ entries, document.IsScalar entry.1 ∧ entry.2 < document.parts.size) ∧
      entries.Pairwise fun entry other =>
        AreApart (document.scalarAt entry.1) (document.scalarAt other.1)

/-- The parts of a document belong together. -/
structure IsSound (document : Document) : Prop where
  root : document.root < document.parts.size
  parts (number : Nat) : document.Admits (document.part number)

end Document

/-! ## Merge keys -/

namespace Merging

/-- Taking merge keys out keeps the nodes closed, and as many. -/
def progress : Progress (Array Node) where
  isSound := IsClosedUnder
  le first second := first.size = second.size
  refl _ := rfl
  trans := Eq.trans

variable {start : Array Node}

theorem isBelow_nodeAt {nodes : Array Node} (h : IsClosedUnder nodes) (number : Nat) :
    (nodeAt nodes number).content.IsBelow nodes.size := by
  unfold nodeAt
  rw [Array.getD_eq_getD_getElem?]
  cases hnode : nodes[number]? with
  | none => trivial
  | some node => exact h node (Array.mem_of_getElem? hnode)

theorem advances_entriesAt (number : Nat) :
    progress.Advances start (entriesAt number) fun nodes entries =>
      Content.IsBelow nodes.size (.mapping entries) := by
  refine (Progress.advances_get (fun nodes found => found.size = nodes.size ∧
    IsClosedUnder found) fun _ _ h => ⟨rfl, h⟩).bind fun nodes found _ _ hfound => ?_
  obtain ⟨hsize, hclosed⟩ := hfound
  have hbelow := isBelow_nodeAt hclosed number
  split
  · next entries hcontent =>
      refine Progress.advances_pure fun state hle _ => ?_
      rw [hcontent, hsize, show nodes.size = state.size from hle] at hbelow
      exact hbelow
  · exact Progress.advances_throw _

theorem advances_putEntries (number : Nat) {entries : List (Nat × Nat)}
    (h : Content.IsBelow start.size (.mapping entries)) :
    progress.Advances start (putEntries number entries) fun _ _ => True := by
  refine Progress.advances_modify fun nodes hle hclosed => ?_
  refine ⟨isClosedUnder_modify hclosed fun _ _ => ?_, Array.size_modify.symm, trivial⟩
  rw [show start.size = nodes.size from hle] at h
  exact h

theorem advances_settle (entries : List (Nat × Nat)) :
    progress.Advances start (settle entries) fun _ _ => True := by
  refine Progress.advances_forM fun entry _ => ?_
  refine Progress.advances_modify fun nodes _ hclosed => ?_
  refine ⟨isClosedUnder_modify hclosed fun node hnode => ?_, Array.size_modify.symm, trivial⟩
  split
  · exact hclosed node hnode
  · exact hclosed node hnode

theorem isBelow_append {bound : Nat} {front back : List (Nat × Nat)}
    (hfront : Content.IsBelow bound (.mapping front))
    (hback : Content.IsBelow bound (.mapping back)) :
    Content.IsBelow bound (.mapping (front ++ back)) := by
  intro entry hentry
  rcases List.mem_append.mp hentry with hentry | hentry
  · exact hfront entry hentry
  · exact hback entry hentry

/-- Taking merge keys out of one mapping takes it out of those that are merged first. -/
theorem advances_flatten (steps number : Nat) :
    progress.Advances start (flatten steps number) fun _ _ => True := by
  induction steps generalizing start number with
  | zero => exact Progress.advances_throw _
  | succ steps ih =>
      -- what an item of a list that is merged offers
      have hoffer : ∀ {start : Array Node} (item : Nat), progress.Advances start
          (do
            flatten steps item
            entriesAt item) fun nodes entries => Content.IsBelow nodes.size (.mapping entries) :=
        fun item => (ih item).bind fun _ _ _ _ _ => advances_entriesAt item
      -- what is offered goes in front of what is left
      have hrest : ∀ {start : Array Node} (offered : List (Nat × Nat)),
          Content.IsBelow start.size (.mapping offered) → progress.Advances start
            (do
              flatten steps number
              putEntries number (offered ++ (← entriesAt number))) fun _ _ => True := by
        intro start offered hoffered
        refine (ih number).bind fun nodes _ hle _ _ => ?_
        refine (advances_entriesAt number).bind fun nodes' entries hle' _ hentries => ?_
        rw [show start.size = nodes'.size from hle.trans hle'] at hoffered
        exact advances_putEntries number (isBelow_append hoffered hentries)
      rw [flatten]
      refine (Progress.advances_get (fun _ _ => True) fun _ _ _ => trivial).bind
        fun nodes found _ _ _ => ?_
      refine (advances_entriesAt number).bind fun nodes' entries _ _ hentries => ?_
      dsimp only
      split
      · exact advances_settle entries
      · next key value behind hbehind =>
          have hkept : Content.IsBelow nodes'.size (.mapping
              (entries.takeWhile (fun entry => !(nodeAt found entry.1).tag == .merge) ++ behind)) := by
            have hdrop : (key, value) :: behind ⊆ entries := by
              rw [← hbehind]
              exact (List.dropWhile_sublist _).subset
            refine isBelow_append (fun entry hentry => ?_) fun entry hentry => ?_
            · exact hentries entry ((List.takeWhile_sublist _).subset hentry)
            · exact hentries entry (hdrop (List.mem_cons_of_mem _ hentry))
          refine (advances_putEntries number hkept).bind fun nodes'' _ _ _ _ => ?_
          split
          · refine (ih value).bind fun nodes _ _ _ _ => ?_
            exact (advances_entriesAt value).bind fun nodes offered _ _ hoffered =>
              hrest offered hoffered
          · next items hitems =>
              have hstays : ∀ (first second : Array Node) (offered : List (Nat × Nat)),
                  progress.le first second → Content.IsBelow first.size (.mapping offered) →
                    Content.IsBelow second.size (.mapping offered) := by
                intro first second offered hle hoffered
                rw [show second.size = first.size from hle.symm]
                exact hoffered
              refine (Progress.advances_mapM hstays fun item _ => hoffer item).bind
                fun nodes offers _ _ hoffers => hrest _ fun entry hentry => ?_
              obtain ⟨offered, hoffered, hmem⟩ := List.mem_flatten.mp hentry
              exact hoffers offered (List.mem_reverse.mp hoffered) entry hmem
          · exact Progress.advances_throw _

end Merging

/-! ## Building parts -/

namespace Building

variable {building other : Building} {number : Nat}

/-- A part is built for the number, and it is no scalar. -/
def HasCollection (building : Building) (number : Nat) : Prop :=
  ∃ part, building.parts[number]? = some (some part) ∧ ∀ s, part ≠ .scalar s

/-- The numbers in a part are those of parts, its keys are scalars that are built and told apart. -/
def Admits (building : Building) : Part → Prop
  | .scalar _ => True
  | .list items => ∀ item ∈ items, item < building.parts.size
  | .set members => ∀ member ∈ members, ∃ s, building.scalar? member = some s
  | .mapping entries =>
    (∀ entry ∈ entries, (∃ s, building.scalar? entry.1 = some s) ∧
      entry.2 < building.parts.size) ∧
      entries.Pairwise fun entry entry' => ∀ s t, building.scalar? entry.1 = some s →
        building.scalar? entry'.1 = some t → AreApart s t

/-- What is built so far belongs together, and only collections wait to be filled. -/
structure IsSound (building : Building) : Prop where
  nodes : IsClosedUnder building.nodes
  size : building.nodes.size ≤ building.parts.size
  parts (number : Nat) (part : Part) (h : building.parts[number]? = some (some part)) :
    building.Admits part
  waiting : ∀ number ∈ building.waiting, building.HasCollection number

/-- More is built: scalars stay as they are, and collections stay collections. -/
structure IsBefore (building other : Building) : Prop where
  nodes : building.nodes.size = other.nodes.size
  size : building.parts.size ≤ other.parts.size
  scalars (number : Nat) (s : Scalar) (h : building.scalar? number = some s) :
    other.scalar? number = some s
  collections (number : Nat) (h : building.HasCollection number) : other.HasCollection number

theorem IsBefore.refl (building : Building) : building.IsBefore building :=
  ⟨rfl, Nat.le_refl _, fun _ _ h => h, fun _ h => h⟩

theorem IsBefore.trans {third : Building} (h : building.IsBefore other)
    (h' : other.IsBefore third) : building.IsBefore third :=
  ⟨h.nodes.trans h'.nodes, Nat.le_trans h.size h'.size,
    fun number s hs => h'.scalars number s (h.scalars number s hs),
    fun number hs => h'.collections number (h.collections number hs)⟩

/-- A part that belongs to what is built belongs to it when more is built. -/
theorem Admits.mono {part : Part} (h : building.Admits part) (hle : building.IsBefore other) :
    other.Admits part := by
  cases part with
  | scalar s => trivial
  | list items => exact fun item hitem => Nat.lt_of_lt_of_le (h item hitem) hle.size
  | set members =>
      intro member hmember
      obtain ⟨s, hs⟩ := h member hmember
      exact ⟨s, hle.scalars member s hs⟩
  | mapping entries =>
      obtain ⟨hentries, hapart⟩ := h
      refine ⟨fun entry hentry => ?_, hapart.imp_of_mem fun {entry entry'} hentry hentry' hpair => ?_⟩
      · obtain ⟨⟨s, hs⟩, hvalue⟩ := hentries entry hentry
        exact ⟨⟨s, hle.scalars _ s hs⟩, Nat.lt_of_lt_of_le hvalue hle.size⟩
      · -- the scalars of the keys are the same later on
        obtain ⟨⟨s, hs⟩, -⟩ := hentries entry hentry
        obtain ⟨⟨t, ht⟩, -⟩ := hentries entry' hentry'
        intro s' t' hs' ht'
        rw [hle.scalars _ s hs] at hs'
        rw [hle.scalars _ t ht] at ht'
        cases hs'
        cases ht'
        exact hpair s t hs ht

theorem scalar?_eq_some {s : Scalar} :
    building.scalar? number = some s ↔ building.parts[number]? = some (some (.scalar s)) := by
  unfold scalar?
  constructor
  · intro h
    split at h
    · next found hfound =>
        cases h
        rcases hpart : building.parts[number]? with _ | part
        · rw [hpart] at hfound
          cases hfound
        · rw [hpart] at hfound
          exact congrArg some hfound
    · cases h
  · intro h
    rw [h]
    rfl

/-- What is built with a part in a place. -/
def placed (building : Building) (number : Nat) (part : Part) : Building :=
  { building with parts := building.parts.setIfInBounds number (some part) }

/-- What is built with a part in a place, which waits to be filled. -/
def started (building : Building) (number : Nat) (part : Part) : Building :=
  { building.placed number part with waiting := number :: building.waiting }

/-- A part may be put into a place if nothing is there, and a collection if one is there. -/
def IsFree (building : Building) (number : Nat) (part : Part) : Prop :=
  building.parts[number]?.join = none ∨ building.HasCollection number ∧ ∀ s, part ≠ .scalar s

theorem getElem?_placed (building : Building) (number : Nat) (part : Part) (index : Nat) :
    (building.placed number part).parts[index]? =
      if number = index ∧ index < building.parts.size then some (some part)
      else building.parts[index]? := by
  unfold placed
  rw [Array.getElem?_setIfInBounds]
  by_cases hsame : number = index
  · by_cases hsize : index < building.parts.size
    · simp [hsame, hsize]
    · simp [hsame, hsize]
  · simp [hsame]

theorem isBefore_placed {part : Part} (hfree : building.IsFree number part) :
    building.IsBefore (building.placed number part) := by
  have hsize : building.parts.size = (building.placed number part).parts.size := by
    unfold placed
    simp
  refine ⟨rfl, Nat.le_of_eq hsize, fun index s hs => ?_, fun index hindex => ?_⟩
  · rw [scalar?_eq_some] at hs ⊢
    rw [getElem?_placed, if_neg, hs]
    -- the place of a scalar is not free
    rintro ⟨rfl, -⟩
    rcases hfree with hnone | ⟨⟨found, hfound, hcollection⟩, -⟩
    · rw [hs] at hnone
      cases hnone
    · rw [hs] at hfound
      cases hfound
      exact hcollection s rfl
  · obtain ⟨found, hfound, hcollection⟩ := hindex
    by_cases hplace : number = index ∧ index < building.parts.size
    · refine ⟨part, ?_, ?_⟩
      · rw [getElem?_placed, if_pos hplace]
      · rcases hfree with hnone | ⟨-, hpart⟩
        · rw [hplace.1, hfound] at hnone
          cases hnone
        · exact hpart
    · refine ⟨found, ?_, hcollection⟩
      rw [getElem?_placed, if_neg hplace, hfound]

theorem isSound_placed {part : Part} (hsound : building.IsSound)
    (hfree : building.IsFree number part) (hpart : building.Admits part) :
    (building.placed number part).IsSound := by
  have hbefore : building.IsBefore (building.placed number part) := isBefore_placed hfree
  refine ⟨hsound.nodes, Nat.le_trans hsound.size hbefore.size, fun index other h => ?_,
    fun index hindex => hbefore.collections index (hsound.waiting index hindex)⟩
  rw [getElem?_placed] at h
  split at h
  · cases h
    exact hpart.mono hbefore
  · exact (hsound.parts index other h).mono hbefore

/-- A collection is started where nothing is, and a node of it is there. -/
theorem isSound_started {part : Part} (hsound : building.IsSound)
    (hfree : building.parts[number]?.join = none) (hsize : number < building.parts.size)
    (hpart : building.Admits part) (hcollection : ∀ s, part ≠ .scalar s) :
    (building.started number part).IsSound ∧ building.IsBefore (building.started number part) := by
  have hbefore : building.IsBefore (building.placed number part) := isBefore_placed (.inl hfree)
  have hplaced : (building.placed number part).IsSound := isSound_placed hsound (.inl hfree) hpart
  refine ⟨⟨hplaced.nodes, hplaced.size, hplaced.parts, fun index hindex => ?_⟩,
    ⟨hbefore.nodes, hbefore.size, hbefore.scalars, hbefore.collections⟩⟩
  rcases List.mem_cons.mp hindex with rfl | hindex
  · refine ⟨part, ?_, hcollection⟩
    show (building.placed index part).parts[index]? = _
    rw [getElem?_placed, if_pos ⟨rfl, hsize⟩]
  · exact hplaced.waiting index hindex

/-- A part is added behind the others. -/
theorem isSound_pushed {part : Part} (hsound : building.IsSound) (hpart : building.Admits part) :
    let after := { building with parts := building.parts.push (some part) }
    after.IsSound ∧ building.IsBefore after := by
  intro after
  have hold : ∀ {index : Nat} {found : Part}, building.parts[index]? = some (some found) →
      after.parts[index]? = some (some found) := by
    intro index found hfound
    have hsize : index < building.parts.size := (Array.getElem?_eq_some_iff.mp hfound).1
    show (building.parts.push (some part))[index]? = _
    rw [Array.getElem?_push, if_neg (Nat.ne_of_lt hsize), hfound]
  -- old numbers keep their parts
  have hbefore : building.IsBefore after := by
    refine ⟨rfl, ?_, fun index s hs => ?_, fun index hindex => ?_⟩
    · show _ ≤ (building.parts.push (some part)).size
      rw [Array.size_push]
      exact Nat.le_succ _
    · rw [scalar?_eq_some] at hs ⊢
      exact hold hs
    · obtain ⟨found, hfound, hcollection⟩ := hindex
      exact ⟨found, hold hfound, hcollection⟩
  refine ⟨⟨hsound.nodes, Nat.le_trans hsound.size hbefore.size, fun index other h => ?_,
    fun index hindex => hbefore.collections index (hsound.waiting index hindex)⟩, hbefore⟩
  have hpush : (building.parts.push (some part))[index]? = some (some other) := h
  rw [Array.getElem?_push] at hpush
  split at hpush
  · cases hpush
    exact hpart.mono hbefore
  · exact (hsound.parts index other hpush).mono hbefore

/-! ### Entries -/

/-- Keys that are not the same are apart. -/
theorem areApart_of_isSameKey {key key' : Nat} {s t : Scalar}
    (h : building.isSameKey key key' = false) (hs : building.scalar? key = some s)
    (ht : building.scalar? key' = some t) : AreApart s t := by
  intro hsame
  unfold isSameKey at h
  rw [hs, ht, Bool.or_eq_false_iff] at h
  obtain ⟨-, hscalars⟩ := h
  split at hscalars
  · next hkey _ =>
      cases hkey
      rfl
  · next hkey hkey' =>
      cases hkey
      cases hkey'
      rw [hsame] at hscalars
      simp at hscalars
  · next hother =>
      exact absurd rfl (hother s t rfl)

theorem key_of_mem_putEntry {entry other : Nat × Nat} {entries : List (Nat × Nat)}
    (h : other ∈ building.putEntry entry entries) :
    (other.1 = entry.1 ∨ ∃ old ∈ entries, old.1 = other.1) ∧
      (other.2 = entry.2 ∨ ∃ old ∈ entries, old.2 = other.2) := by
  induction entries with
  | nil =>
      rw [putEntry, List.mem_singleton] at h
      rw [h]
      exact ⟨Or.inl rfl, Or.inl rfl⟩
  | cons first rest ih =>
      obtain ⟨key, value⟩ := first
      rw [putEntry] at h
      split at h
      · rcases List.mem_cons.mp h with rfl | hrest
        · exact ⟨Or.inr ⟨_, List.mem_cons_self, rfl⟩, Or.inl rfl⟩
        · exact ⟨Or.inr ⟨other, List.mem_cons_of_mem _ hrest, rfl⟩,
            Or.inr ⟨other, List.mem_cons_of_mem _ hrest, rfl⟩⟩
      · rcases List.mem_cons.mp h with rfl | hrest
        · exact ⟨Or.inr ⟨_, List.mem_cons_self, rfl⟩, Or.inr ⟨_, List.mem_cons_self, rfl⟩⟩
        · obtain ⟨hkey, hvalue⟩ := ih hrest
          refine ⟨hkey.imp_right ?_, hvalue.imp_right ?_⟩
          · rintro ⟨old, hold, hsame⟩
            exact ⟨old, List.mem_cons_of_mem _ hold, hsame⟩
          · rintro ⟨old, hold, hsame⟩
            exact ⟨old, List.mem_cons_of_mem _ hold, hsame⟩

/-- **An entry that is put among others keeps the keys apart.** -/
theorem admits_putEntry {entry : Nat × Nat} {entries : List (Nat × Nat)}
    (h : building.Admits (.mapping entries)) (hkey : ∃ s, building.scalar? entry.1 = some s)
    (hvalue : entry.2 < building.parts.size) :
    building.Admits (.mapping (building.putEntry entry entries)) := by
  refine ⟨fun other hother => ?_, ?_⟩
  · obtain ⟨hsameKey, hsameValue⟩ := key_of_mem_putEntry hother
    constructor
    · rcases hsameKey with hsame | ⟨old, hold, hsame⟩
      · rw [hsame]
        exact hkey
      · rw [← hsame]
        exact (h.1 old hold).1
    · rcases hsameValue with hsame | ⟨old, hold, hsame⟩
      · rw [hsame]
        exact hvalue
      · rw [← hsame]
        exact (h.1 old hold).2
  · obtain ⟨-, hapart⟩ := h
    -- the entry replaces the first one with its key, or comes last, where no other has it
    induction entries with
    | nil => exact List.pairwise_singleton _ _
    | cons first rest ih =>
        obtain ⟨key, value⟩ := first
        obtain ⟨hfirst, hrest⟩ := List.pairwise_cons.mp hapart
        rw [putEntry]
        split
        · exact List.pairwise_cons.mpr ⟨hfirst, hrest⟩
        · next hnew =>
            refine List.pairwise_cons.mpr ⟨fun other hother s t hs ht => ?_, ih hrest⟩
            obtain ⟨hsame | ⟨old, hold, hsame⟩, -⟩ := key_of_mem_putEntry hother
            · rw [hsame] at ht
              exact areApart_of_isSameKey (by simpa using hnew) hs ht
            · rw [← hsame] at ht
              exact hfirst old hold s t hs ht

end Building

namespace Constructing

/-- Building keeps what is built sound, and takes nothing of it away. -/
def progress : Progress Building where
  isSound := Building.IsSound
  le := Building.IsBefore
  refl := Building.IsBefore.refl
  trans := Building.IsBefore.trans

/-- A step of building that starts from what is built. -/
abbrev Builds {α : Type} (earlier : Building) (step : Constructing α)
    (good : Building → α → Prop) : Prop :=
  progress.Advances earlier step good

variable {earlier : Building} {number : Nat}

/-- **Building a part**: nothing is done if it is there, a collection is started, and a scalar is
read. -/
theorem run_build (number : Nat) (building : Building) :
    (build number).run building =
      if (building.parts[number]?).join.isSome then .ok ((), building)
      else
        match (building.nodeAt number).tag with
        | .list | .pairs => .ok ((), building.started number (.list []))
        | .set => .ok ((), building.started number (.set []))
        | .mapping => .ok ((), building.started number (.mapping []))
        | _ => (building.scalarAt number).map fun s =>
          ((), building.placed number (.scalar s)) := by
  have hget : (build number).run building = StateT.run
      (if (building.parts[number]?).join.isSome then pure ()
      else
        match (building.nodeAt number).tag with
        | .list | .pairs => start number (.list [])
        | .set => start number (.set [])
        | .mapping => start number (.mapping [])
        | _ => do place number (.scalar (← liftM (building.scalarAt number)))) building := rfl
  rw [hget]
  split
  · rfl
  -- only a scalar can fail to be built
  · have hscalar : StateT.run (do
        place number (.scalar (← liftM (building.scalarAt number)))) building =
          (building.scalarAt number).map fun s => ((), building.placed number (.scalar s)) := by
      cases building.scalarAt number <;> rfl
    cases (building.nodeAt number).tag with
    | list => rfl
    | pairs => rfl
    | set => rfl
    | mapping => rfl
    | _ => exact hscalar

/-- Behind a number that has a tag of its own there is a node. -/
theorem lt_size_of_tag {building : Building} (h : (building.nodeAt number).tag ≠ .null) :
    number < building.nodes.size := by
  refine Nat.lt_of_not_le fun hsize => h ?_
  unfold Building.nodeAt Merging.nodeAt
  rw [Array.getD_eq_getD_getElem?, Array.getElem?_eq_none hsize]
  rfl

theorem advances_build (number : Nat) : Builds earlier (build number) fun _ _ => True := by
  intro building _ hsound value after hrun
  rw [run_build] at hrun
  split at hrun
  · cases hrun
    exact ⟨hsound, .refl building, trivial⟩
  · next hmissing =>
      have hfree : building.parts[number]?.join = none := by simpa using hmissing
      -- the number is free, so what is put there takes nothing away
      have hstart : ∀ {part : Part}, (building.nodeAt number).tag ≠ .null →
          building.Admits part → (∀ s, part ≠ .scalar s) →
          (building.started number part).IsSound ∧
            building.IsBefore (building.started number part) ∧ True := by
        intro part htag hpart hcollection
        have hsize : number < building.parts.size :=
          Nat.lt_of_lt_of_le (lt_size_of_tag htag) hsound.size
        obtain ⟨hstarted, hbefore⟩ :=
          Building.isSound_started hsound hfree hsize hpart hcollection
        exact ⟨hstarted, hbefore, trivial⟩
      split at hrun
      · next htag =>
          cases hrun
          exact hstart (by simp [htag]) (fun _ => nofun) nofun
      · next htag =>
          cases hrun
          exact hstart (by simp [htag]) (fun _ => nofun) nofun
      · next htag =>
          cases hrun
          exact hstart (by simp [htag]) (fun _ => nofun) nofun
      · next htag =>
          cases hrun
          exact hstart (by simp [htag]) ⟨fun _ => nofun, .nil⟩ nofun
      · cases hscalar : building.scalarAt number with
        | error failure =>
            rw [hscalar] at hrun
            cases hrun
        | ok s =>
            rw [hscalar] at hrun
            cases hrun
            exact ⟨Building.isSound_placed hsound (.inl hfree) trivial,
              Building.isBefore_placed (.inl hfree), trivial⟩

/-- A key that is built is a scalar. -/
theorem advances_buildKey (number : Nat) :
    Builds earlier (buildKey number) fun building _ =>
      ∃ s, building.scalar? number = some s := by
  refine (advances_build number).bind fun building _ _ _ _ => ?_
  refine (Progress.advances_get (fun building found => ∀ s, found.scalar? number = some s →
    building.scalar? number = some s) fun _ _ _ _ h => h).bind fun building found _ _ hfound => ?_
  split
  · exact Progress.advances_throw _
  · next hscalar =>
      obtain ⟨s, hs⟩ : ∃ s, found.scalar? number = some s := by
        simpa [Option.isNone_iff_eq_none, Option.ne_none_iff_exists'] using hscalar
      exact Progress.advances_pure fun state hle _ => ⟨s, hle.scalars number s (hfound s hs)⟩

/-! ### Collections -/

/-- The numbers in the nodes that are seen are those of nodes. -/
theorem advances_get :
    Builds earlier get fun building found =>
      ∀ number, (found.nodeAt number).content.IsBelow building.nodes.size :=
  Progress.advances_get _ fun _ _ hsound number => Merging.isBelow_nodeAt hsound.nodes number

theorem advances_place {part : Part} (hplace : earlier.HasCollection number)
    (hpart : earlier.Admits part) (hcollection : ∀ s, part ≠ .scalar s) :
    Builds earlier (place number part) fun _ _ => True := by
  intro building hle hsound value after hrun
  cases hrun
  have hfree : building.IsFree number part := .inr ⟨hle.collections number hplace, hcollection⟩
  exact ⟨Building.isSound_placed hsound hfree (hpart.mono hle), Building.isBefore_placed hfree,
    trivial⟩

/-- A pair is a list behind the parts of the nodes. -/
theorem advances_pair (number : Nat) :
    Builds earlier (pair number) fun building pair => pair < building.parts.size := by
  -- the last step puts the list there
  have hpush : ∀ {earlier : Building} {key value : Nat}, key < earlier.nodes.size →
      value < earlier.nodes.size → Builds earlier
        (do
          let building ← get
          set { building with parts := building.parts.push (some (.list [key, value])) }
          return building.parts.size) fun building pair => pair < building.parts.size := by
    intro earlier key value hkey hvalue building hle hsound pair after hrun
    cases hrun
    have hitems : building.Admits (.list [key, value]) := by
      intro item hitem
      have hnode : item < earlier.nodes.size := by
        rcases List.mem_cons.mp hitem with rfl | hitem
        · exact hkey
        · exact (List.mem_singleton.mp hitem) ▸ hvalue
      rw [hle.nodes] at hnode
      exact Nat.lt_of_lt_of_le hnode hsound.size
    obtain ⟨hafter, hbefore⟩ := Building.isSound_pushed hsound hitems
    refine ⟨hafter, hbefore, ?_⟩
    show building.parts.size < (building.parts.push _).size
    rw [Array.size_push]
    exact Nat.lt_succ_self _
  refine advances_get.bind fun building found _ _ hfound => ?_
  have hnode := hfound number
  split
  · next key value hcontent =>
      rw [hcontent] at hnode
      obtain ⟨hkey, hvalue⟩ := hnode (key, value) List.mem_cons_self
      refine (advances_build key).bind fun building' _ hle _ _ => ?_
      refine (advances_build value).bind fun building'' _ hle' _ _ => ?_
      rw [hle.nodes, hle'.nodes] at hkey hvalue
      exact hpush hkey hvalue
  · exact Progress.advances_throw _

theorem advances_flatten (number : Nat) : Builds earlier (flatten number) fun _ _ => True := by
  intro building _ hsound value after hrun
  have hflatten : (flatten number).run building =
      ((Merging.flatten (mergeSteps building.nodes) number).run building.nodes).bind fun result =>
        .ok ((), { building with nodes := result.2 }) := by
    have hlift : ∀ reading : Reading (Unit × Array Node), StateT.run (do
        let result ← liftM reading
        set { building with nodes := result.2 }) building =
          reading.bind fun result => .ok ((), { building with nodes := result.2 }) := by
      intro reading
      cases reading <;> rfl
    exact hlift _
  rw [hflatten] at hrun
  cases hmerged : (Merging.flatten (mergeSteps building.nodes) number).run building.nodes with
  | error failure =>
      rw [hmerged] at hrun
      cases hrun
  | ok result =>
      obtain ⟨done, nodes⟩ := result
      rw [hmerged] at hrun
      cases hrun
      obtain ⟨hclosed, hsize, -⟩ := Merging.advances_flatten (mergeSteps building.nodes) number
        building.nodes rfl hsound.nodes done nodes hmerged
      -- the parts are not touched
      have hbefore : building.IsBefore { building with nodes } :=
        ⟨hsize, Nat.le_refl _, fun _ _ h => h, fun _ h => h⟩
      refine ⟨⟨hclosed, ?_, fun number part h => (hsound.parts number part h).mono hbefore,
        hsound.waiting⟩, hbefore, trivial⟩
      rw [← show building.nodes.size = nodes.size from hsize]
      exact hsound.size

/-- The entries of a mapping belong to what is built, and their keys are apart. -/
theorem advances_entries (number : Nat) :
    Builds earlier (entries number) fun building entries =>
      building.Admits (.mapping entries) := by
  refine (advances_flatten number).bind fun building _ _ _ _ => ?_
  refine advances_get.bind fun building found _ _ hfound => ?_
  have hnode := hfound number
  dsimp only
  have hfold : ∀ (written : List (Nat × Nat)),
      Content.IsBelow building.nodes.size (.mapping written) → Builds building
        (written.foldlM (fun entries entry => do
          buildKey entry.1
          build entry.2
          return (← get).putEntry entry entries) [])
        fun building entries => building.Admits (.mapping entries) := by
    intro written hwritten
    have hnone : building.Admits (.mapping []) := ⟨by simp, .nil⟩
    -- the invariant of the loop: the entries so far are admitted, and stay so as more is built
    refine Progress.advances_foldlM hnone (fun _ _ _ hle h => Building.Admits.mono h hle)
      fun entry hentry earlier entries hle hentries => ?_
    obtain ⟨key, value⟩ := entry
    obtain ⟨-, hvalue⟩ := hwritten (key, value) hentry
    refine (advances_buildKey key).bind fun first _ hfirst _ hkey => ?_
    refine (advances_build value).bind fun second _ hsecond _ _ => ?_
    intro last hlast hsound entries' after hrun
    cases hrun
    have hlater := hsecond.trans hlast
    obtain ⟨s, hs⟩ := hkey
    refine ⟨hsound, .refl last, Building.admits_putEntry (hentries.mono (hfirst.trans hlater))
      ⟨s, hlater.scalars key s hs⟩ ?_⟩
    rw [(hle.trans (hfirst.trans hlater)).nodes] at hvalue
    exact Nat.lt_of_lt_of_le hvalue hsound.size
  split
  · next written hcontent =>
      rw [hcontent] at hnode
      exact hfold written hnode
  · exact Progress.advances_throw _

/-- **Filling a collection** that is there. -/
theorem advances_fill (hplace : earlier.HasCollection number) :
    Builds earlier (fill number) fun _ _ => True := by
  refine advances_get.bind fun building found hle _ hfound => ?_
  have hnode := hfound number
  dsimp only
  have hplace' := hle.collections number hplace
  -- by the kind of collection: a list, pairs, a mapping, a set
  split
  · next items _ hcontent =>
      rw [hcontent] at hnode
      refine (Progress.advances_forM fun item _ => advances_build item).bind
        fun building' _ hle' hsound' _ => ?_
      refine advances_place (hle'.collections number hplace') (fun item hitem => ?_) nofun
      have hitem := hnode item hitem
      rw [hle'.nodes] at hitem
      exact Nat.lt_of_lt_of_le hitem hsound'.size
  · have hstays : ∀ (first second : Building) (pair : Nat), progress.le first second →
        pair < first.parts.size → pair < second.parts.size :=
      fun _ _ _ hle h => Nat.lt_of_lt_of_le h hle.size
    refine (Progress.advances_mapM hstays fun item _ => advances_pair item).bind
      fun building' pairs hle' _ hpairs => ?_
    exact advances_place (hle'.collections number hplace') hpairs nofun
  · refine (advances_entries number).bind fun building' entries hle' _ hentries => ?_
    exact advances_place (hle'.collections number hplace') hentries nofun
  · refine (advances_entries number).bind fun building' entries hle' _ hentries => ?_
    refine advances_place (hle'.collections number hplace') (fun member hmember => ?_) nofun
    obtain ⟨entry, hentry, rfl⟩ := List.mem_map.mp hmember
    exact (hentries.1 entry hentry).1
  · exact Progress.advances_throw _

/-- Those that wait are collections, whatever is met while they are filled. -/
theorem advances_fillAll (rounds : Nat) : Builds earlier (fillAll rounds) fun _ _ => True := by
  induction rounds generalizing earlier with
  | zero => exact Progress.advances_pure fun _ _ _ => trivial
  | succ rounds ih =>
      intro building _ hsound value after hrun
      have hfillAll : (fillAll (rounds + 1)).run building = StateT.run
          (if !building.waiting.isEmpty then do
            set { building with waiting := [] }
            building.waiting.reverse.forM fill
            fillAll rounds
          else pure ()) building := rfl
      rw [hfillAll] at hrun
      split at hrun
      -- those that wait are taken out first, and filled in a state in which nothing waits
      · let start : Building := { building with waiting := [] }
        have hbefore : building.IsBefore start :=
          ⟨rfl, Nat.le_refl _, fun _ _ h => h, fun _ h => h⟩
        have hstart : start.IsSound :=
          ⟨hsound.nodes, hsound.size,
            fun number part h => (hsound.parts number part h).mono hbefore, nofun⟩
        have hfill : Builds start
            (do
              building.waiting.reverse.forM fill
              fillAll rounds) fun _ _ => True := by
          refine (Progress.advances_forM fun number hnumber => ?_).bind fun _ _ _ _ _ => ih
          exact advances_fill (hsound.waiting number (List.mem_reverse.mp hnumber))
        obtain ⟨hafter, hle, -⟩ := hfill start (.refl start) hstart value after hrun
        exact ⟨hafter, hbefore.trans hle, trivial⟩
      · cases hrun
        exact ⟨hsound, .refl building, trivial⟩

end Constructing

/-! ## What is read -/

/-- What is built is a document, in which a part that is missing is nothing. -/
theorem Building.isSound_document {building : Building} (h : building.IsSound) {root : Nat}
    (hroot : root < building.nodes.size) :
    Document.IsSound ⟨building.parts.map fun part? => part?.getD (.scalar .null), root⟩ := by
  let document : Document := ⟨building.parts.map fun part? => part?.getD (.scalar .null), root⟩
  have hsize : document.parts.size = building.parts.size := Array.size_map
  have hpart : ∀ number,
      document.part number = (building.parts[number]?.join).getD (.scalar .null) := by
    intro number
    unfold Document.part
    rw [Array.getD_eq_getD_getElem?, Array.getElem?_map]
    cases building.parts[number]? with
    | none => rfl
    | some part? => cases part? <;> rfl
  have hscalar : ∀ {number : Nat} {s : Scalar}, building.scalar? number = some s →
      document.IsScalar number ∧ document.scalarAt number = s := by
    intro number s hs
    rw [Building.scalar?_eq_some] at hs
    have hfound : document.part number = .scalar s := by
      rw [hpart, hs]
      rfl
    refine ⟨⟨?_, s, hfound⟩, ?_⟩
    · rw [hsize]
      exact (Array.getElem?_eq_some_iff.mp hs).1
    · unfold Document.scalarAt
      rw [hfound]
  have hroot' : document.root < document.parts.size := by
    rw [hsize]
    exact Nat.lt_of_lt_of_le hroot h.size
  -- what was admitted while building is admitted in the document, where scalars are the same
  refine ⟨hroot', fun number => ?_⟩
  show document.Admits (document.part number)
  rw [hpart]
  rcases hfound : building.parts[number]? with _ | _ | part
  · trivial
  · trivial
  · have hadmits : building.Admits part := h.parts number part hfound
    show document.Admits part
    cases part with
    | scalar s => trivial
    | list items =>
        intro item hitem
        rw [hsize]
        exact hadmits item hitem
    | set members =>
        intro member hmember
        obtain ⟨s, hs⟩ := hadmits member hmember
        exact (hscalar hs).1
    | mapping entries =>
        obtain ⟨hentries, hapart⟩ := hadmits
        refine ⟨fun entry hentry => ?_, hapart.imp_of_mem fun hentry hother hpair => ?_⟩
        · obtain ⟨⟨s, hs⟩, hvalue⟩ := hentries entry hentry
          rw [hsize]
          exact ⟨(hscalar hs).1, hvalue⟩
        · obtain ⟨⟨s, hs⟩, -⟩ := hentries _ hentry
          obtain ⟨⟨t, ht⟩, -⟩ := hentries _ hother
          rw [(hscalar hs).2, (hscalar ht).2]
          exact hpair s t hs ht

theorem Document.isSound_of_ofGraph {graph : Graph} {document : Document}
    (hgraph : graph.IsClosed) (h : Document.ofGraph graph = .ok document) : document.IsSound := by
  let start : Building :=
    { nodes := graph.nodes, parts := Array.replicate graph.nodes.size none }
  have hnothing : ∀ {number : Nat} {part : Part}, start.parts[number]? ≠ some (some part) := by
    intro number part hpart
    rw [Array.getElem?_replicate] at hpart
    split at hpart <;> cases hpart
  have hstart : start.IsSound := by
    refine ⟨hgraph.nodes, ?_, fun number part hpart => absurd hpart hnothing, nofun⟩
    exact Nat.le_of_eq Array.size_replicate.symm
  -- building starts from nothing, which is sound, and each step keeps it so
  let construct : Constructing Unit := do
    Constructing.build graph.root
    Constructing.fillAll graph.nodes.size
  have hconstruct : Constructing.Builds start construct fun _ _ => True :=
    (Constructing.advances_build graph.root).bind fun _ _ _ _ _ =>
      Constructing.advances_fillAll graph.nodes.size
  have hread : Document.ofGraph graph = (construct.run start).bind fun result =>
      .ok ⟨result.2.parts.map fun part? => part?.getD (.scalar .null), graph.root⟩ := rfl
  rw [hread] at h
  cases hrun : construct.run start with
  | error failure =>
      rw [hrun] at h
      cases h
  | ok result =>
      obtain ⟨done, building⟩ := result
      rw [hrun] at h
      cases h
      obtain ⟨hafter, hle, -⟩ := hconstruct start (.refl start) hstart done building hrun
      refine Building.isSound_document hafter ?_
      rw [← hle.nodes]
      exact hgraph.root

/-- **A document that is read is sound.** -/
theorem Document.isSound_of_parse {source : Source} {document : Document}
    (h : parse source = .ok document) : document.IsSound := by
  unfold parse at h
  cases hgraph : Graph.ofSource source with
  | error failure =>
      rw [hgraph] at h
      cases h
  | ok graph? =>
      rw [hgraph] at h
      cases graph? with
      | none =>
          cases h
          refine ⟨Nat.zero_lt_one, fun number => ?_⟩
          have hpart : (Document.ofPart (.scalar .null)).part number = .scalar .null := by
            cases number <;> rfl
          rw [hpart]
          trivial
      | some graph => exact isSound_of_ofGraph (Graph.isClosed_of_ofSource hgraph) h

end ModuleResolution.Yaml
