import ModuleResolution.Proofs.Value.Equality
import ModuleResolution.Proofs.Yaml.View

/-! # Documents that are changed

What is seen of a document after each of the steps by which it is changed: a field of a mapping is
set (`IsHolder.look_putField`), a field that is missing is put there (`fieldOr_of_none`), and a
scalar is put behind the items of a list (`look_append`). What is changed has to stand in one place
only; a part that stands in several places would be changed in all of them.
-/

set_option autoImplicit false

namespace ModuleResolution.Yaml

namespace Document

variable {document other : Document} {number : Nat} {part : Part} {isChanged : Nat → Prop}

/-! ## Parts -/

theorem part_add (document : Document) (part : Part) (number : Nat) :
    (document.add part).2.part number =
      if number = document.parts.size then part else document.part number := by
  show (document.parts.push part).getD number _ = _
  rw [Array.getD_eq_getD_getElem?, Array.getElem?_push]
  split
  · rfl
  · exact (Array.getD_eq_getD_getElem? ..).symm

theorem size_add (document : Document) (part : Part) :
    (document.add part).2.parts.size = document.parts.size + 1 := Array.size_push ..

theorem size_lt_add (document : Document) (part : Part) :
    document.parts.size < (document.add part).2.parts.size := by
  rw [size_add]
  exact Nat.lt_succ_self _

theorem part_put (document : Document) (number : Nat) (part : Part) (index : Nat) :
    (document.put number part).part index =
      if number = index ∧ index < document.parts.size then part else document.part index := by
  show (document.parts.setIfInBounds number part).getD index _ = _
  rw [Array.getD_eq_getD_getElem?, Array.getElem?_setIfInBounds]
  by_cases hsame : number = index
  · by_cases hsize : index < document.parts.size
    · simp [hsame, hsize]
    · simp [hsame, hsize, Document.part]
  · simp [hsame, Document.part]

theorem part_put_self (hsize : number < document.parts.size) (part : Part) :
    (document.put number part).part number = part := by
  rw [part_put, if_pos ⟨rfl, hsize⟩]

theorem size_put (document : Document) (number : Nat) (part : Part) :
    (document.put number part).parts.size = document.parts.size := Array.size_setIfInBounds

theorem scalarAt_of_part {s : Scalar} (h : document.part number = .scalar s) :
    document.scalarAt number = s := by
  unfold scalarAt
  rw [h]

theorem scalarAt_of_ne (h : ∀ s, document.part number ≠ .scalar s) :
    document.scalarAt number = .null := by
  unfold scalarAt
  split
  · next s hpart => exact absurd hpart (h s)
  · rfl

theorem keeps_add (document : Document) (part : Part) :
    Keeps isChanged document (document.add part).2 := by
  have hpart : ∀ number, number < document.parts.size →
      (document.add part).2.part number = document.part number := by
    intro number hsize
    rw [part_add, if_neg (Nat.ne_of_lt hsize)]
  refine ⟨rfl, ?_, fun number hsize _ => hpart number hsize, fun number hsize => ?_⟩
  · rw [size_add]
    exact Nat.le_succ _
  · unfold scalarAt
    rw [hpart number hsize]

theorem isClosed_add (hclosed : document.IsClosed) (hpart : part.IsBelow document.parts.size) :
    (document.add part).2.IsClosed := by
  have hsize := size_add document part
  refine ⟨?_, fun number => ?_⟩
  · rw [hsize]
    exact Nat.lt_succ_of_lt hclosed.root
  · rw [hsize, part_add]
    split
    · exact hpart.mono (Nat.le_succ _)
    · exact (hclosed.parts number).mono (Nat.le_succ _)

theorem keeps_put (hold : ∀ s, document.part number ≠ .scalar s) (hnew : ∀ s, part ≠ .scalar s) :
    Keeps (· = number) document (document.put number part) := by
  have hpart : ∀ index, index ≠ number →
      (document.put number part).part index = document.part index := by
    intro index hindex
    rw [part_put, if_neg fun h => hindex h.1.symm]
  refine ⟨rfl, Nat.le_of_eq (size_put ..).symm, fun index _ hindex => hpart index hindex,
    fun index hsize => ?_⟩
  by_cases hindex : index = number
  · subst hindex
    rw [scalarAt_of_ne hold, scalarAt_of_ne]
    rw [part_put_self hsize]
    exact hnew
  · unfold scalarAt
    rw [hpart index hindex]

theorem isClosed_put (hclosed : document.IsClosed) (hpart : part.IsBelow document.parts.size) :
    (document.put number part).IsClosed := by
  have hsize := size_put document number part
  refine ⟨?_, fun index => ?_⟩
  · rw [hsize]
    exact hclosed.root
  · rw [hsize, part_put]
    split
    · exact hpart
    · exact hclosed.parts index

/-! ## Fields -/

variable {mapping : Nat} {entries : List (Nat × Nat)} {name : String}

/-- A field is where the step of its key leads. -/
theorem next?_field (hpart : document.part mapping = .mapping entries) (name : String) :
    document.next? mapping (.key (.text name)) = document.field? entries name :=
  next?_of_key hpart (.text name)

/-- An entry of a field that is there is changed: other keys lead where they led. -/
theorem find?_map_field (scalarOf : Nat → Scalar) (name : String) (number : Nat) (key : Scalar)
    (entries : List (Nat × Nat)) :
    let isKey (key : Nat) : Bool := (scalarOf key).asKey == (Scalar.text name).asKey
    ((entries.map fun entry => if isKey entry.1 then (entry.1, number) else entry).find?
        fun entry => (scalarOf entry.1).asKey == key.asKey).map (·.2) =
      if key = .text name ∧ entries.any (fun entry => isKey entry.1) then some number
      else (entries.find? fun entry => (scalarOf entry.1).asKey == key.asKey).map (·.2) := by
  intro isKey
  -- the changed entry keeps its key, so a search stops where it stopped
  induction entries with
  | nil => simp
  | cons entry rest ih =>
      rw [List.map_cons, List.find?_cons, List.find?_cons, List.any_cons]
      cases hentry : isKey entry.1 with
      | true =>
          have hname : (scalarOf entry.1).asKey = (Scalar.text name).asKey := eq_of_beq hentry
          rw [if_pos rfl]
          by_cases hkey : key = .text name
          · subst hkey
            simp only [hname, beq_self_eq_true, Bool.true_or, and_self, if_true]
            rfl
          · have hmiss : ((scalarOf entry.1).asKey == key.asKey) = false := by
              rw [hname, beq_eq_false_iff_ne]
              exact fun hsame => hkey (Scalar.eq_text_of_asKey hsame.symm)
            simp only [hmiss, hkey, false_and, if_false] at ih ⊢
            exact ih
      | false =>
          rw [if_neg Bool.false_ne_true, Bool.false_or]
          cases hsame : (scalarOf entry.1).asKey == key.asKey with
          | true =>
              have hkey : key ≠ .text name := by
                rintro rfl
                exact Bool.false_ne_true (hentry.symm.trans hsame)
              rw [if_neg fun h => hkey h.1]
          | false => exact ih

/-- An entry of a field that is missing is added: other keys lead where they led. -/
theorem find?_concat_field {scalarOf : Nat → Scalar} {name : String} {added : Nat}
    (hadded : scalarOf added = .text name) (number : Nat) (key : Scalar)
    (entries : List (Nat × Nat))
    (hnone : ∀ entry ∈ entries, (scalarOf entry.1).asKey ≠ (Scalar.text name).asKey) :
    ((entries ++ [(added, number)]).find?
        fun entry => (scalarOf entry.1).asKey == key.asKey).map (·.2) =
      if key = .text name then some number
      else (entries.find? fun entry => (scalarOf entry.1).asKey == key.asKey).map (·.2) := by
  rw [List.find?_append]
  -- the new entry is the last one, and the only one with its key
  by_cases hkey : key = .text name
  · subst hkey
    have hfind : entries.find?
        (fun entry => (scalarOf entry.1).asKey == (Scalar.text name).asKey) = none := by
      rw [List.find?_eq_none]
      exact fun entry hentry hsame => hnone entry hentry (eq_of_beq hsame)
    have hlast : [(added, number)].find?
        (fun entry => (scalarOf entry.1).asKey == (Scalar.text name).asKey) =
          some (added, number) := by
      rw [List.find?_singleton, if_pos]
      rw [hadded, beq_self_eq_true]
    rw [hfind, hlast, if_pos rfl]
    rfl
  · have hne : ¬ (Scalar.text name).asKey = key.asKey := fun hsame =>
      hkey (Scalar.eq_text_of_asKey hsame.symm)
    have hlast : [(added, number)].find?
        (fun entry => (scalarOf entry.1).asKey == key.asKey) = none := by
      simp only [List.find?_singleton, hadded, beq_iff_eq, hne, if_false]
    rw [hlast, Option.or_none, if_neg hkey]

section putField

variable (hclosed : document.IsClosed) (hpart : document.part mapping = .mapping entries)
  (hsize : mapping < document.parts.size)

include hpart hsize in
theorem keeps_putField (number : Nat) (name : String) :
    Keeps (· = mapping) document (document.putField mapping entries name number) := by
  have hold : ∀ s, document.part mapping ≠ .scalar s := by simp [hpart]
  unfold putField
  dsimp only
  split
  · exact keeps_put hold nofun
  · refine (keeps_add document _).trans (keeps_put ?_ nofun)
    rw [part_add, if_neg (Nat.ne_of_lt hsize)]
    exact hold

include hclosed hpart in
theorem isClosed_putField (hnumber : number < document.parts.size) (name : String) :
    (document.putField mapping entries name number).IsClosed := by
  have hentries : Part.IsBelow document.parts.size (.mapping entries) := by
    rw [← hpart]
    exact hclosed.parts mapping
  unfold putField
  dsimp only
  split
  · refine isClosed_put hclosed fun entry hentry => ?_
    obtain ⟨old, hold, rfl⟩ := List.mem_map.mp hentry
    obtain ⟨hkey, hvalue⟩ := hentries old hold
    split
    · exact ⟨hkey, hnumber⟩
    · exact ⟨hkey, hvalue⟩
  · refine isClosed_put (isClosed_add hclosed trivial) fun entry hentry => ?_
    rw [size_add]
    rcases List.mem_append.mp hentry with hentry | hentry
    · exact ⟨Nat.lt_succ_of_lt (hentries entry hentry).1,
        Nat.lt_succ_of_lt (hentries entry hentry).2⟩
    · obtain rfl := List.mem_singleton.mp hentry
      exact ⟨Nat.lt_succ_self _, Nat.lt_succ_of_lt hnumber⟩

include hpart hclosed hsize

/-- The mapping after a field has been set: its keys are those of the document, and other keys lead
where they led. -/
theorem exists_part_putField (number : Nat) (name : String) :
    ∃ entries', (document.putField mapping entries name number).part mapping =
        .mapping entries' ∧
      ∀ key : Scalar, (entries'.find? fun entry => ((document.putField mapping entries name
          number).scalarAt entry.1).asKey == key.asKey).map (·.2) =
        if key = .text name then some number
        else (entries.find? fun entry =>
          (document.scalarAt entry.1).asKey == key.asKey).map (·.2) := by
  have hscalars := (keeps_putField hpart hsize number name).scalars
  have hentries : Part.IsBelow document.parts.size (.mapping entries) := by
    rw [← hpart]
    exact hclosed.parts mapping
  -- the field is there and its entry is changed, or it is missing and an entry is added
  by_cases hany : entries.any fun entry =>
      (document.scalarAt entry.1).asKey == (Scalar.text name).asKey
  · let change (entry : Nat × Nat) : Nat × Nat :=
      if (document.scalarAt entry.1).asKey == (Scalar.text name).asKey then (entry.1, number)
      else entry
    have hchange : ∀ entry, (change entry).1 = entry.1 := by
      intro entry
      show (if _ then _ else _ : Nat × Nat).1 = _
      split <;> rfl
    have hput : document.putField mapping entries name number =
        document.put mapping (.mapping (entries.map change)) := if_pos hany
    refine ⟨entries.map change, hput ▸ part_put_self hsize _, fun key => ?_⟩
    have hfind : ((entries.map change).find? fun entry => ((document.putField mapping entries name
        number).scalarAt entry.1).asKey == key.asKey) = (entries.map change).find? fun entry =>
          (document.scalarAt entry.1).asKey == key.asKey := by
      refine List.find?_congr fun entry hentry => ?_
      obtain ⟨old, hold, rfl⟩ := List.mem_map.mp hentry
      rw [hchange, hscalars old.1 (hentries old hold).1]
    rw [hfind, find?_map_field document.scalarAt name number key entries]
    exact if_congr (and_iff_left hany) rfl rfl
  · let added := document.parts.size
    have hput : document.putField mapping entries name number =
        (document.add (.scalar (.text name))).2.put mapping
          (.mapping (entries ++ [(added, number)])) := if_neg hany
    have hmapping : (document.putField mapping entries name number).part mapping =
        .mapping (entries ++ [(added, number)]) := by
      rw [hput]
      exact part_put_self (Nat.lt_trans hsize (size_lt_add ..)) _
    have hadded : (document.putField mapping entries name number).scalarAt added =
        .text name := by
      refine scalarAt_of_part ?_
      rw [hput, part_put, if_neg fun h => Nat.ne_of_lt hsize h.1, part_add, if_pos rfl]
    have hsame : ∀ entry ∈ entries, (document.putField mapping entries name number).scalarAt
        entry.1 = document.scalarAt entry.1 :=
      fun entry hentry => hscalars entry.1 (hentries entry hentry).1
    refine ⟨_, hmapping, fun key => ?_⟩
    rw [find?_concat_field hadded number key entries]
    · refine if_congr Iff.rfl rfl (congrArg _ (List.find?_congr fun entry hentry => ?_))
      rw [hsame entry hentry]
    · intro entry hentry hkey
      rw [hsame entry hentry] at hkey
      exact hany (List.any_eq_true.mpr ⟨entry, hentry, beq_iff_eq.mpr hkey⟩)

/-- **The key of a field that is set leads to what is set**, and other keys lead where they led. -/
theorem next?_putField (number : Nat) (name : String) (step : Step) :
    (document.putField mapping entries name number).next? mapping step =
      if step = .key (.text name) then some number else document.next? mapping step := by
  obtain ⟨entries', hpart', hfind⟩ := exists_part_putField hclosed hpart hsize number name
  cases step with
  | item index =>
      rw [next?_of_mapping_item hpart', next?_of_mapping_item hpart, if_neg nofun]
  | key key =>
      rw [next?_of_key hpart', next?_of_key hpart, hfind]
      exact if_congr (Step.key.injEq ..).symm.to_iff rfl rfl

theorem shape_putField (number : Nat) (name : String) :
    (document.putField mapping entries name number).shape mapping = .mapping := by
  obtain ⟨entries', hpart', -⟩ := exists_part_putField hclosed hpart hsize number name
  exact shape_of_mapping hpart'

end putField

/-- The mapping stands in one place, and what is put into it does not lead back to it. -/
structure IsHolder (document : Document) (path : List Step) (mapping : Nat)
    (entries : List (Nat × Nat)) (number : Nat) : Prop where
  only : document.IsOnlyAt path mapping
  part : document.part mapping = .mapping entries
  size : number < document.parts.size
  apart (rest : List Step) : document.follow number rest ≠ some mapping

section IsHolder

variable {path : List Step} (hclosed : document.IsClosed)
  (hholder : document.IsHolder path mapping entries number) (name : String)

include hclosed hholder

/-- **What is seen after a field has been set.** -/
theorem IsHolder.look_putField :
    (document.putField mapping entries name number).look =
      Look.replaced (path ++ [.key (.text name)]) (document.lookFrom number) document.look := by
  obtain ⟨honly, hpart, hnumber, hapart⟩ := hholder
  have hsize := honly.lt hclosed
  have hkeeps := keeps_putField hpart hsize number name
  have hnew : (document.putField mapping entries name number).lookFrom number =
      document.lookFrom number :=
    lookFrom_of_keeps hkeeps hclosed hnumber fun rest inner hrest hsame =>
      hapart rest (hsame ▸ hrest)
  rw [honly.look_of_changed hclosed hkeeps, Look.replaced_of_append]
  -- the mapping stands in one place, so it is enough to see what is behind it
  refine congrArg (fun branch => Look.replaced path branch document.look) (funext fun rest => ?_)
  cases rest with
  | nil =>
      rw [lookFrom_nil, shape_putField hclosed hpart hsize, Look.replaced, ← honly.lookFrom,
        lookFrom_nil, shape_of_mapping hpart]
  | cons step rest =>
      rw [lookFrom_cons, next?_putField hclosed hpart hsize, Look.replaced]
      split
      · rw [Option.bind_some, hnew]
        rfl
      · rw [← honly.lookFrom, lookFrom_cons]
        cases hstep : document.next? mapping step with
        | none => rfl
        | some inner =>
            exact congrFun (honly.lookFrom_of_changed hclosed hkeeps hstep) rest

theorem IsHolder.isOnlyAt_putField :
    (document.putField mapping entries name number).IsOnlyAt path mapping := by
  obtain ⟨honly, hpart, hnumber, hapart⟩ := hholder
  have hsize := honly.lt hclosed
  have hkeeps := keeps_putField hpart hsize number name
  refine honly.of_changed hclosed hkeeps fun step rest h => ?_
  rw [follow, next?_putField hclosed hpart hsize] at h
  split at h
  · rw [Option.bind_some, follow_of_keeps hkeeps hclosed hnumber fun front _ inner _ _ hfront hsame =>
      hapart front (hsame ▸ hfront)] at h
    exact hapart rest h
  · cases hstep : document.next? mapping step with
    | none =>
        rw [hstep] at h
        cases h
    | some inner =>
        rw [hstep, Option.bind_some, honly.follow_inner_of_changed hclosed hkeeps hstep] at h
        exact honly.ne_of_follow hstep h rfl

/-- A part that stood nowhere and holds nothing stands where it is put. -/
theorem IsHolder.isOnlyAt_field (hnew : ∀ path, document.follow document.root path ≠ some number)
    (hleaf : ∀ step, document.next? number step = none) :
    (document.putField mapping entries name number).IsOnlyAt (path ++ [.key (.text name)])
      number := by
  have honly' := hholder.isOnlyAt_putField hclosed name
  obtain ⟨honly, hpart, hnumber, hapart⟩ := hholder
  have hsize := honly.lt hclosed
  have hkeeps := keeps_putField hpart hsize number name
  have hnext := next?_putField hclosed hpart hsize number name
  refine ⟨?_, fun path' h => ?_⟩
  · rw [follow_append, honly'.follow, Option.bind_some, follow, hnext, if_pos rfl]
    rfl
  · by_cases hprefix : path <+: path'
    · obtain ⟨rest, rfl⟩ := hprefix
      rw [follow_append, honly'.follow, Option.bind_some] at h
      cases rest with
      | nil =>
          obtain rfl : mapping = number := Option.some.inj h
          exact absurd honly.follow (hnew path)
      | cons step rest =>
          rw [follow, hnext] at h
          split at h
          · next hstep =>
              subst hstep
              rw [Option.bind_some, follow_of_keeps hkeeps hclosed hnumber
                fun front _ inner _ _ hfront hsame => hapart front (hsame ▸ hfront)] at h
              -- nothing lies in the part
              cases rest with
              | nil => rfl
              | cons step rest =>
                  rw [follow, hleaf] at h
                  cases h
          · cases hstep : document.next? mapping step with
            | none =>
                rw [hstep] at h
                cases h
            | some inner =>
                rw [hstep, Option.bind_some,
                  honly.follow_inner_of_changed hclosed hkeeps hstep] at h
                refine absurd ?_ (hnew (path ++ step :: rest))
                rw [follow_append, honly.follow, Option.bind_some, follow, hstep]
                exact h
    · rw [honly.follow_of_changed hclosed hkeeps fun back hback => absurd ⟨back, hback⟩ hprefix] at h
      exact absurd h (hnew path')

end IsHolder

/-! ## Collections that are put where nothing is -/

/-- The part holds nothing. -/
inductive IsBare : Part → Prop
  | list : IsBare (.list [])
  | mapping : IsBare (.mapping [])

theorem IsBare.isBelow (h : IsBare part) (bound : Nat) : part.IsBelow bound := by
  cases h <;> exact nofun

theorem next?_of_isBare (h : IsBare (document.part number)) (step : Step) :
    document.next? number step = none := by
  unfold next?
  generalize document.part number = part at h
  cases h with
  | list => cases step <;> rfl
  | mapping => cases step <;> rfl

end Document

/-- What is seen of something in which nothing lies. -/
def Look.leaf (shape : Shape) : Look
  | [] => some shape
  | _ :: _ => none

namespace Document

variable {document : Document} {number mapping : Nat} {entries : List (Nat × Nat)} {name : String}
  {part : Part} {path : List Step}

theorem lookFrom_of_isBare (h : IsBare (document.part number)) :
    document.lookFrom number = Look.leaf (document.shape number) := by
  funext path
  cases path with
  | nil => rfl
  | cons step rest =>
      rw [lookFrom_cons, next?_of_isBare h]
      rfl

section fieldOr

variable (hclosed : document.IsClosed) (honly : document.IsOnlyAt path mapping)
  (hpart : document.part mapping = .mapping entries) (hbare : IsBare part)

include hclosed honly hpart hbare

/-- A part that holds nothing can be put into a mapping that stands in one place. -/
theorem isHolder_add :
    (document.add part).2.IsHolder path mapping entries document.parts.size := by
  have hsize := honly.lt hclosed
  refine ⟨honly.of_keeps hclosed (keeps_add document part), ?_, ?_, fun rest h => ?_⟩
  · rw [part_add, if_neg (Nat.ne_of_lt hsize), hpart]
  · exact size_lt_add ..
  · have hnumber : (document.add part).2.part document.parts.size = part := by
      rw [part_add, if_pos rfl]
    cases rest with
    | nil => exact Nat.ne_of_gt hsize (Option.some.inj h)
    | cons step rest =>
        rw [follow, next?_of_isBare (hnumber.symm ▸ hbare)] at h
        cases h

/-- **What is seen after a field that is missing has been put there.** -/
theorem fieldOr_of_none (hnone : document.field? entries name = none) :
    ∃ number after, document.fieldOr mapping entries name part = (number, after) ∧
      after.IsClosed ∧ after.IsOnlyAt (path ++ [.key (.text name)]) number ∧
      after.part number = part ∧
      after.look = Look.replaced (path ++ [.key (.text name)]) (Look.leaf (after.shape number))
        document.look := by
  let added := (document.add part).2
  let number := document.parts.size
  have hsize := honly.lt hclosed
  have haddedClosed : added.IsClosed := isClosed_add hclosed (hbare.isBelow _)
  have hkeeps : Keeps (fun _ => False) document added := keeps_add document part
  have hholder : added.IsHolder path mapping entries number := isHolder_add hclosed honly hpart hbare
  have hnumber : added.part number = part := (part_add ..).trans (if_pos rfl)
  have hfollow : ∀ path, added.follow added.root path = document.follow document.root path :=
    fun path => follow_of_keeps hkeeps hclosed hclosed.root fun _ _ _ _ _ _ => not_false
  have hlook : added.look = document.look :=
    lookFrom_of_keeps hkeeps hclosed hclosed.root fun _ _ _ => not_false
  -- nothing leads to the new part until the field does
  have hnew : ∀ path, added.follow added.root path ≠ some number := by
    intro path h
    rw [hfollow] at h
    exact Nat.lt_irrefl _ (follow_lt hclosed hclosed.root h)
  have hadded := hholder.part
  have hafter : (added.putField mapping entries name number).part number = part := by
    rw [(keeps_putField hadded (Nat.lt_of_lt_of_le hsize hkeeps.size) number name).parts number
      hholder.size (Nat.ne_of_gt hsize), hnumber]
  refine ⟨number, added.putField mapping entries name number, ?_, ?_, ?_, hafter, ?_⟩
  · unfold fieldOr
    rw [hnone]
    rfl
  · exact isClosed_putField haddedClosed hadded hholder.size name
  · exact hholder.isOnlyAt_field haddedClosed name hnew
      (next?_of_isBare (hnumber.symm ▸ hbare))
  · rw [hholder.look_putField haddedClosed, hlook, lookFrom_of_isBare (hnumber.symm ▸ hbare)]
    have hshape : added.shape number =
        (added.putField mapping entries name number).shape number := by
      unfold shape
      rw [hnumber, hafter]
      cases hbare <;> rfl
    rw [hshape]

end fieldOr

/-- A field that is there stays as it is. -/
theorem fieldOr_of_some (h : document.field? entries name = some number) :
    document.fieldOr mapping entries name part = (number, document) := by
  unfold fieldOr
  rw [h]

/-- **Where steps lead from a mapping that has a field or gets it**, whatever is shared. -/
theorem next?_fieldOr (hclosed : document.IsClosed) (hsize : mapping < document.parts.size)
    (hpart : document.part mapping = .mapping entries) (hbare : IsBare part) (name : String) :
    ∃ number after, document.fieldOr mapping entries name part = (number, after) ∧
      after.IsClosed ∧ Keeps (· = mapping) document after ∧
      (∀ step, after.next? mapping step =
        if step = .key (.text name) then some number else document.next? mapping step) ∧
      (document.field? entries name = some number ∧ after = document ∨
        document.field? entries name = none ∧ after.part number = part) := by
  cases hfield : document.field? entries name with
  | some number =>
      refine ⟨number, document, fieldOr_of_some hfield, hclosed, .refl _ _, fun step => ?_,
        .inl ⟨rfl, rfl⟩⟩
      split
      · next hstep => rw [hstep, next?_field hpart, hfield]
      · rfl
  | none =>
      -- the part is added first, and then the field leads to it
      let added := (document.add part).2
      let number := document.parts.size
      have hadded : added.IsClosed := isClosed_add hclosed (hbare.isBelow _)
      have hkeeps : Keeps (fun _ => False) document added := keeps_add document part
      have hsize' : mapping < added.parts.size := Nat.lt_of_lt_of_le hsize hkeeps.size
      have hnumber : number < added.parts.size := size_lt_add ..
      have hpart' : added.part mapping = .mapping entries := by
        rw [hkeeps.parts mapping hsize not_false, hpart]
      have hkeeps' := keeps_putField hpart' hsize' number name
      refine ⟨number, added.putField mapping entries name number, ?_,
        isClosed_putField hadded hpart' hnumber name,
        (keeps_add document part).trans hkeeps', fun step => ?_, .inr ⟨rfl, ?_⟩⟩
      · unfold fieldOr
        rw [hfield]
        rfl
      · rw [next?_putField hadded hpart' hsize',
          next?_of_keeps hkeeps hclosed hsize not_false]
      · rw [hkeeps'.parts number hnumber (Nat.ne_of_gt hsize), part_add, if_pos rfl]

/-! ## Lists -/

variable {list : Nat} {items : List Nat}

def append (document : Document) (list : Nat) (items : List Nat) (s : Scalar) : Document :=
  (document.add (.scalar s)).2.put list (.list (items ++ [document.parts.size]))

section append

variable (hsize : list < document.parts.size) (hpart : document.part list = .list items) (s : Scalar)

include hsize

theorem part_append : (document.append list items s).part list =
    .list (items ++ [document.parts.size]) :=
  part_put_self (Nat.lt_trans hsize (size_lt_add ..)) _

theorem part_append_size :
    (document.append list items s).part document.parts.size = .scalar s := by
  show ((document.add _).2.put _ _).part document.parts.size = _
  rw [part_put, if_neg fun h => Nat.ne_of_lt hsize h.1, part_add, if_pos rfl]

include hpart

theorem keeps_append : Keeps (· = list) document (document.append list items s) := by
  refine (keeps_add document _).trans (keeps_put ?_ nofun)
  rw [part_add, if_neg (Nat.ne_of_lt hsize), hpart]
  exact nofun

end append

/-- **What is seen after a scalar has been put behind the items of a list.** -/
theorem look_append (hclosed : document.IsClosed) (honly : document.IsOnlyAt path list)
    (hpart : document.part list = .list items) (s : Scalar) :
    let after := document.append list items s
    after.look path = some (.list (items.length + 1)) ∧
      (∀ rest, after.look (path ++ .item items.length :: rest) = Look.leaf (.scalar s) rest) ∧
      ∀ path', path' ≠ path → ¬ path ++ [.item items.length] <+: path' →
        after.look path' = document.look path' := by
  intro after
  let added := document.parts.size
  have hsize := honly.lt hclosed
  have hkeeps : Keeps (· = list) document after := keeps_append hsize hpart s
  have hlist : after.part list = .list (items ++ [added]) := part_append hsize s
  have hadded : after.part added = .scalar s := part_append_size hsize s
  have hleaf : after.lookFrom added = Look.leaf (.scalar s) := by
    funext rest
    cases rest with
    | nil => rw [lookFrom_nil, shape_of_scalar hadded, Look.leaf]
    | cons step rest =>
        rw [lookFrom_cons, next?_of_scalar hadded]
        rfl
  -- only the list is changed, and it stands in one place
  have hlook := honly.look_of_changed hclosed hkeeps
  refine ⟨?_, fun rest => ?_, fun path' hpath hprefix => ?_⟩
  · rw [hlook, Look.replaced_self, lookFrom_nil, shape_of_list hlist, List.length_append,
      List.length_singleton]
  · rw [hlook, Look.replaced_append, lookFrom_cons, next?_of_item hlist,
      List.getElem?_concat_length, Option.bind_some, hleaf]
  · rw [hlook]
    by_cases hbehind : path <+: path'
    · obtain ⟨rest, rfl⟩ := hbehind
      rw [Look.replaced_append, ← honly.lookFrom]
      cases rest with
      | nil => exact absurd (List.append_nil path) hpath
      | cons step rest =>
          rw [lookFrom_cons, lookFrom_cons]
          cases step with
          | key key =>
              rw [next?_of_list_key hlist, next?_of_list_key hpart]
              rfl
          | item index =>
              have hindex : index ≠ items.length := by
                rintro rfl
                exact hprefix ⟨rest, List.append_assoc ..⟩
              have hsame : after.next? list (.item index) = document.next? list (.item index) := by
                rw [next?_of_item hlist, next?_of_item hpart, List.getElem?_append]
                split
                · rfl
                · next hlength =>
                    rw [List.getElem?_eq_none (Nat.le_of_not_lt hlength),
                      List.getElem?_eq_none]
                    rw [List.length_singleton]
                    omega
              rw [hsame]
              cases hstep : document.next? list (.item index) with
              | none => rfl
              | some inner =>
                  exact congrFun (honly.lookFrom_of_changed hclosed hkeeps hstep) rest
    · exact Look.replaced_of_not_prefix hbehind

end Document

end ModuleResolution.Yaml
