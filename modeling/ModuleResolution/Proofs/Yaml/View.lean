import Mathlib.Data.List.Find
import Mathlib.Data.List.Forall2
import ModuleResolution.Proofs.Yaml.Built

/-! # What is seen of a document

Who goes into a document from its root, through keys of mappings and items of lists, sees at each
place whether a scalar, a list, a set or a mapping stands there (`Document.look`). By that a document
is compared with a value and with other documents, whatever the numbers of the parts are and
whichever of them are shared.

Where parts of a document are changed or added, nothing else is seen on paths that meet none of the
changed parts (`lookFrom_of_keeps`). If one part is changed, and it stands in one place only, what is
seen changes behind this place only (`IsOnlyAt.look_of_changed`).
-/

set_option autoImplicit false

namespace ModuleResolution.Yaml

/-- A step into a mapping or into a list. -/
inductive Step where
  | key (key : Scalar)
  | item (index : Nat)
  deriving DecidableEq, Repr

/-- What is seen of something without going into it; of a set it is seen what counts as a member. -/
inductive Shape where
  | scalar (value : Scalar)
  | list (length : Nat)
  | set (isMember : Scalar → Bool)
  | mapping

/-- What is seen at the end of each path. -/
abbrev Look := List Step → Option Shape

/-- What is seen if all behind a path looks otherwise. -/
def Look.replaced : List Step → Look → Look → Look
  | [], branch, _, path => branch path
  | _ :: _, _, old, [] => old []
  | step :: route, branch, old, first :: rest =>
    if first = step then replaced route branch (fun path => old (step :: path)) rest
    else old (first :: rest)

namespace Look

/-- No key that is met is an undefined number. -/
def IsDefined (look : Look) : Prop :=
  ∀ path, look (path ++ [.key (.real .undefined)]) = none

variable {branch old : Look}

theorem replaced_append (route : List Step) (branch old : Look) (rest : List Step) :
    replaced route branch old (route ++ rest) = branch rest := by
  induction route generalizing old with
  | nil => rfl
  | cons step route ih =>
      rw [List.cons_append, replaced, if_pos rfl]
      exact ih _

/-- Nothing is seen otherwise, but on the way to a place and behind it. -/
def AgreesOff (route : List Step) (before after : Look) : Prop :=
  ∀ path, ¬ path <+: route → ¬ route <+: path → after path = before path

theorem replaced_self (route : List Step) (branch old : Look) :
    replaced route branch old route = branch [] := by
  rw [← replaced_append route branch old [], List.append_nil]

theorem replaced_of_not_prefix {route path : List Step} (h : ¬ route <+: path) :
    replaced route branch old path = old path := by
  induction route generalizing old path with
  | nil => exact absurd List.nil_prefix h
  | cons step route ih =>
      cases path with
      | nil => rfl
      | cons first rest =>
          rw [replaced]
          split
          · next hsame =>
              subst hsame
              exact ih fun hprefix => h (List.cons_prefix_cons.mpr ⟨rfl, hprefix⟩)
          · rfl

/-- Replacing behind a path and then behind it again. -/
theorem replaced_of_append (route more : List Step) (branch old : Look) :
    replaced (route ++ more) branch old =
      replaced route (replaced more branch fun path => old (route ++ path)) old := by
  induction route generalizing old with
  | nil => rfl
  | cons step route ih =>
      funext path
      cases path with
      | nil => rfl
      | cons first rest =>
          rw [List.cons_append, replaced, replaced]
          split
          · exact congrFun (ih _) rest
          · rfl

end Look

end ModuleResolution.Yaml

/-! ## Values -/

namespace ModuleResolution.Value

open Yaml (Step Shape)

/-- What is seen of a value without going into it. -/
def shape : Value → Shape
  | .scalar s => .scalar s
  | .list items => .list items.length
  | .set members => .set fun key => members.any fun member => member.asKey == key.asKey
  | .mapping _ => .mapping

/-- Where a step leads in a value. -/
def next? : Value → Step → Option Value
  | .mapping entries, .key key => Entries.get? entries key
  | .list items, .item index => items[index]?
  | _, _ => none

def look : Value → Yaml.Look
  | value, [] => some value.shape
  | value, step :: rest => (value.next? step).bind fun inner => inner.look rest

end ModuleResolution.Value

/-! ## Documents -/

namespace ModuleResolution.Yaml

/-- The numbers of the items, members and entries of a part are less than a bound. -/
def Part.IsBelow (bound : Nat) : Part → Prop
  | .scalar _ => True
  | .list items => ∀ item ∈ items, item < bound
  | .set members => ∀ member ∈ members, member < bound
  | .mapping entries => ∀ entry ∈ entries, entry.1 < bound ∧ entry.2 < bound

theorem Part.IsBelow.mono {part : Part} {bound further : Nat} (h : part.IsBelow bound)
    (hle : bound ≤ further) : part.IsBelow further := by
  cases part with
  | scalar s => trivial
  | list items => exact fun item hitem => Nat.lt_of_lt_of_le (h item hitem) hle
  | set members => exact fun member hmember => Nat.lt_of_lt_of_le (h member hmember) hle
  | mapping entries =>
      intro entry hentry
      obtain ⟨hkey, hvalue⟩ := h entry hentry
      exact ⟨Nat.lt_of_lt_of_le hkey hle, Nat.lt_of_lt_of_le hvalue hle⟩

namespace Document

variable {document other : Document} {number : Nat}

/-- The numbers in a document are numbers of its parts. -/
structure IsClosed (document : Document) : Prop where
  root : document.root < document.parts.size
  parts (number : Nat) : (document.part number).IsBelow document.parts.size

theorem IsSound.isClosed (h : document.IsSound) : document.IsClosed := by
  refine ⟨h.root, fun number => ?_⟩
  have hparts := h.parts number
  cases hpart : document.part number with
  | scalar s => trivial
  | list items =>
      rw [hpart] at hparts
      exact hparts
  | set members =>
      rw [hpart] at hparts
      exact fun member hmember => (hparts member hmember).1
  | mapping entries =>
      rw [hpart] at hparts
      exact fun entry hentry => ⟨(hparts.1 entry hentry).1.1, (hparts.1 entry hentry).2⟩

/-- Where a step leads in a part. -/
def next? (document : Document) (number : Nat) (step : Step) : Option Nat :=
  match document.part number, step with
  | .mapping entries, .key key =>
    (entries.find? fun entry => (document.scalarAt entry.1).asKey == key.asKey).map (·.2)
  | .list items, .item index => items[index]?
  | _, _ => none

/-- The part to which a path leads from a part. -/
def follow (document : Document) : Nat → List Step → Option Nat
  | number, [] => some number
  | number, step :: rest =>
    (document.next? number step).bind fun inner => document.follow inner rest

def shape (document : Document) (number : Nat) : Shape :=
  match document.part number with
  | .scalar s => .scalar s
  | .list items => .list items.length
  | .set members =>
    .set fun key => members.any fun member => (document.scalarAt member).asKey == key.asKey
  | .mapping _ => .mapping

/-- What is seen from a part on. -/
def lookFrom (document : Document) (number : Nat) : Look :=
  fun path => (document.follow number path).map document.shape

def look (document : Document) : Look := document.lookFrom document.root

section parts

variable {s : Scalar} {items : List Nat} {entries : List (Nat × Nat)}

theorem next?_of_scalar (h : document.part number = .scalar s) (step : Step) :
    document.next? number step = none := by
  unfold next?
  rw [h]

theorem next?_of_item (h : document.part number = .list items) (index : Nat) :
    document.next? number (.item index) = items[index]? := by
  unfold next?
  rw [h]

theorem next?_of_list_key (h : document.part number = .list items) (key : Scalar) :
    document.next? number (.key key) = none := by
  unfold next?
  rw [h]

theorem next?_of_key (h : document.part number = .mapping entries) (key : Scalar) :
    document.next? number (.key key) =
      (entries.find? fun entry => (document.scalarAt entry.1).asKey == key.asKey).map (·.2) := by
  unfold next?
  rw [h]

theorem next?_of_mapping_item (h : document.part number = .mapping entries) (index : Nat) :
    document.next? number (.item index) = none := by
  unfold next?
  rw [h]

theorem shape_of_scalar (h : document.part number = .scalar s) :
    document.shape number = .scalar s := by
  unfold shape
  rw [h]

theorem shape_of_list (h : document.part number = .list items) :
    document.shape number = .list items.length := by
  unfold shape
  rw [h]

theorem shape_of_mapping (h : document.part number = .mapping entries) :
    document.shape number = .mapping := by
  unfold shape
  rw [h]

theorem part_of_shape_scalar (h : document.shape number = .scalar s) :
    document.part number = .scalar s := by
  unfold shape at h
  cases hpart : document.part number <;> rw [hpart] at h <;> cases h
  rfl

theorem exists_part_of_shape_list {length : Nat} (h : document.shape number = .list length) :
    ∃ items, document.part number = .list items ∧ items.length = length := by
  unfold shape at h
  cases hpart : document.part number <;> rw [hpart] at h <;> cases h
  exact ⟨_, rfl, rfl⟩

theorem exists_part_of_shape_mapping (h : document.shape number = .mapping) :
    ∃ entries, document.part number = .mapping entries := by
  unfold shape at h
  cases hpart : document.part number <;> rw [hpart] at h <;> cases h
  exact ⟨_, rfl⟩

end parts

theorem follow_append (document : Document) (number : Nat) (path rest : List Step) :
    document.follow number (path ++ rest) =
      (document.follow number path).bind fun inner => document.follow inner rest := by
  induction path generalizing number with
  | nil => rfl
  | cons step path ih =>
      rw [List.cons_append, follow, follow]
      cases document.next? number step with
      | none => rfl
      | some inner => exact ih inner

theorem lookFrom_nil (document : Document) (number : Nat) :
    document.lookFrom number [] = some (document.shape number) := rfl

theorem lookFrom_cons (document : Document) (number : Nat) (step : Step) (rest : List Step) :
    document.lookFrom number (step :: rest) =
      (document.next? number step).bind fun inner => document.lookFrom inner rest := by
  rw [lookFrom, follow]
  cases document.next? number step <;> rfl

/-- What is seen at the end of a path is the part to which it leads. -/
theorem exists_of_lookFrom {path : List Step} {seen : Shape}
    (h : document.lookFrom number path = some seen) :
    ∃ inner, document.follow number path = some inner ∧ document.shape inner = seen :=
  Option.map_eq_some_iff.mp h

theorem lookFrom_append {path : List Step} {inner : Nat}
    (h : document.follow number path = some inner) (rest : List Step) :
    document.lookFrom number (path ++ rest) = document.lookFrom inner rest := by
  rw [lookFrom, follow_append, h]
  rfl

theorem next?_lt (hclosed : document.IsClosed) {step : Step} {inner : Nat}
    (h : document.next? number step = some inner) : inner < document.parts.size := by
  have hparts := hclosed.parts number
  unfold next? at h
  split at h
  · next entries key hpart =>
      rw [hpart] at hparts
      obtain ⟨entry, hentry, rfl⟩ := Option.map_eq_some_iff.mp h
      exact (hparts entry (List.mem_of_find?_eq_some hentry)).2
  · next items index hpart =>
      rw [hpart] at hparts
      exact hparts inner (List.mem_of_getElem? h)
  · cases h

theorem follow_lt (hclosed : document.IsClosed) (hsize : number < document.parts.size)
    {path : List Step} {inner : Nat} (h : document.follow number path = some inner) :
    inner < document.parts.size := by
  induction path generalizing number with
  | nil => exact Option.some.inj h ▸ hsize
  | cons step rest ih =>
      rw [follow] at h
      obtain ⟨found, hfound, hrest⟩ := Option.bind_eq_some_iff.mp h
      exact ih (next?_lt hclosed hfound) hrest

/-- A step for a key leads into a mapping. -/
theorem exists_part_of_next?_key {inner : Nat} {key : Scalar}
    (h : document.next? number (.key key) = some inner) :
    ∃ entries, document.part number = .mapping entries := by
  unfold next? at h
  split at h
  · next entries key hpart _ => exact ⟨entries, hpart⟩
  · next heq => cases heq
  · cases h

/-- A step for an item leads into a list. -/
theorem exists_part_of_next?_item {inner index : Nat}
    (h : document.next? number (.item index) = some inner) :
    ∃ items, document.part number = .list items ∧ items[index]? = some inner := by
  unfold next? at h
  split at h
  · next heq => cases heq
  · next items index' hpart heq =>
      cases heq
      exact ⟨items, hpart, h⟩
  · cases h

theorem follow_cons_eq_some {last : Nat} {step : Step} {rest : List Step} :
    document.follow number (step :: rest) = some last ↔
      ∃ inner, document.next? number step = some inner ∧
        document.follow inner rest = some last := by
  rw [follow, Option.bind_eq_some_iff]

/-! ## Documents beside values -/

theorem rel_mono {rel rel' : Nat → Value → Prop} (h : ∀ inner below, rel inner below → rel' inner below) :
    {inner? : Option Nat} → {below? : Option Value} → Option.Rel rel inner? below? →
      Option.Rel rel' inner? below?
  | _, _, .none => .none
  | _, _, .some hinner => .some (h _ _ hinner)

/-- A part shows a value if each step leads to a part that shows where it leads in the value. -/
theorem lookFrom_eq_of_next? {value : Value} (hshape : document.shape number = value.shape)
    (hnext : ∀ step, Option.Rel (fun inner below => document.lookFrom inner = below.look)
      (document.next? number step) (value.next? step)) :
    document.lookFrom number = value.look := by
  funext path
  cases path with
  | nil => rw [lookFrom_nil, hshape, Value.look]
  | cons step rest =>
      have hstep := hnext step
      rw [lookFrom_cons, Value.look]
      generalize document.next? number step = inner?, value.next? step = below? at hstep ⊢
      cases hstep with
      | none => rfl
      | some hinner => exact congrFun hinner rest

/-- Items of lists whose items are related are related. -/
theorem rel_getElem? {rel : Nat → Value → Prop} {items : List Nat} {values : List Value}
    (h : List.Forall₂ rel items values) (index : Nat) :
    Option.Rel rel items[index]? values[index]? := by
  induction h generalizing index with
  | nil => exact .none
  | cons hfirst _ ih =>
      cases index with
      | zero => exact .some hfirst
      | succ index => exact ih index

/-- What belongs to a key is related where the entries have the same keys and related values. -/
theorem rel_find? {rel : Nat → Value → Prop} {entries : List (Nat × Nat)} {shown : Mapping}
    (h : List.Forall₂ (fun entry shown => document.scalarAt entry.1 = shown.1 ∧
      rel entry.2 shown.2) entries shown) (key : Scalar) :
    Option.Rel rel
      ((entries.find? fun entry => (document.scalarAt entry.1).asKey == key.asKey).map (·.2))
      (shown.get? key) := by
  unfold Entries.get?
  induction h with
  | nil => exact .none
  | cons hfirst _ ih =>
      rw [List.find?_cons, List.find?_cons, hfirst.1]
      split
      · exact .some hfirst.2
      · exact ih

/-! ## Documents that are changed -/

/-- Parts are added and some are changed, but no scalar among them. -/
structure Keeps (isChanged : Nat → Prop) (document other : Document) : Prop where
  root : other.root = document.root
  size : document.parts.size ≤ other.parts.size
  parts (number : Nat) (hsize : number < document.parts.size) (h : ¬ isChanged number) :
    other.part number = document.part number
  scalars (number : Nat) (hsize : number < document.parts.size) :
    other.scalarAt number = document.scalarAt number

theorem Keeps.refl (isChanged : Nat → Prop) (document : Document) :
    Keeps isChanged document document :=
  ⟨rfl, Nat.le_refl _, fun _ _ _ => rfl, fun _ _ => rfl⟩

theorem Keeps.trans {third : Document} {isChanged : Nat → Prop}
    (h : Keeps isChanged document other) (h' : Keeps isChanged other third) :
    Keeps isChanged document third := by
  refine ⟨h'.root.trans h.root, Nat.le_trans h.size h'.size, fun number hsize hkept => ?_,
    fun number hsize => ?_⟩
  · rw [h'.parts number (Nat.lt_of_lt_of_le hsize h.size) hkept, h.parts number hsize hkept]
  · rw [h'.scalars number (Nat.lt_of_lt_of_le hsize h.size), h.scalars number hsize]

section Keeps

variable {isChanged : Nat → Prop}

/-- The same entries are seen where the scalars are the same. -/
theorem next?_of_keeps (hkeeps : Keeps isChanged document other) (hclosed : document.IsClosed)
    (hsize : number < document.parts.size) (hkept : ¬ isChanged number) (step : Step) :
    other.next? number step = document.next? number step := by
  have hparts := hclosed.parts number
  unfold next?
  rw [hkeeps.parts number hsize hkept]
  cases hpart : document.part number with
  | mapping entries =>
      rw [hpart] at hparts
      cases step with
      | key key =>
          refine congrArg (Option.map _) (List.find?_congr fun entry hentry => ?_)
          rw [hkeeps.scalars entry.1 (hparts entry hentry).1]
      | item index => rfl
  | list items => cases step <;> rfl
  | set members => rfl
  | scalar s => rfl

theorem shape_of_keeps (hkeeps : Keeps isChanged document other) (hclosed : document.IsClosed)
    (hsize : number < document.parts.size) (hkept : ¬ isChanged number) :
    other.shape number = document.shape number := by
  have hparts := hclosed.parts number
  unfold shape
  rw [hkeeps.parts number hsize hkept]
  cases hpart : document.part number with
  | set members =>
      rw [hpart] at hparts
      refine congrArg Shape.set (funext fun key => ?_)
      rw [Bool.eq_iff_iff, List.any_eq_true, List.any_eq_true]
      refine exists_congr fun member => and_congr_right fun hmember => ?_
      rw [hkeeps.scalars member (hparts member hmember)]
  | list items => rfl
  | mapping entries => rfl
  | scalar s => rfl

theorem follow_of_keeps (hkeeps : Keeps isChanged document other) (hclosed : document.IsClosed)
    (hsize : number < document.parts.size) {path : List Step}
    (hkept : ∀ front back inner, front ++ back = path → back ≠ [] →
      document.follow number front = some inner → ¬ isChanged inner) :
    other.follow number path = document.follow number path := by
  induction path generalizing number with
  | nil => rfl
  | cons step rest ih =>
      have hnumber : ¬ isChanged number := hkept [] (step :: rest) number rfl nofun rfl
      rw [follow, follow, next?_of_keeps hkeeps hclosed hsize hnumber]
      cases hnext : document.next? number step with
      | none => rfl
      | some inner =>
          refine ih (next?_lt hclosed hnext) fun front back found hpath hback hfound => ?_
          refine hkept (step :: front) back found ?_ hback ?_
          · rw [← hpath, List.cons_append]
          · rw [follow, hnext]
            exact hfound

/-- **Nothing else is seen from a part from which no changed part is met.** -/
theorem lookFrom_of_keeps (hkeeps : Keeps isChanged document other) (hclosed : document.IsClosed)
    (hsize : number < document.parts.size)
    (hkept : ∀ path inner, document.follow number path = some inner → ¬ isChanged inner) :
    other.lookFrom number = document.lookFrom number := by
  funext path
  have hfollow : other.follow number path = document.follow number path :=
    follow_of_keeps hkeeps hclosed hsize fun front _ inner _ _ => hkept front inner
  rw [lookFrom, lookFrom, hfollow]
  cases hend : document.follow number path with
  | none => rfl
  | some inner =>
      refine congrArg some (shape_of_keeps hkeeps hclosed ?_ (hkept path inner hend))
      exact follow_lt hclosed hsize hend

end Keeps

/-! ## Parts that stand in one place -/

/-- No other path leads to the part. -/
structure IsOnlyAt (document : Document) (path : List Step) (number : Nat) : Prop where
  follow : document.follow document.root path = some number
  only (other : List Step) (h : document.follow document.root other = some number) : other = path

namespace IsOnlyAt

variable {path : List Step}

theorem lt (honly : document.IsOnlyAt path number) (hclosed : document.IsClosed) :
    number < document.parts.size :=
  follow_lt hclosed hclosed.root honly.follow

/-- No path leads back to the part. -/
theorem ne_of_follow (honly : document.IsOnlyAt path number) {step : Step} {inner : Nat}
    (hstep : document.next? number step = some inner) {rest : List Step} {last : Nat}
    (h : document.follow inner rest = some last) : last ≠ number := by
  rintro rfl
  have hlonger : document.follow document.root (path ++ step :: rest) = some last := by
    rw [follow_append, honly.follow, Option.bind_some, Document.follow, hstep]
    exact h
  have hlength := congrArg List.length (honly.only _ hlonger)
  simp at hlength

theorem lookFrom (honly : document.IsOnlyAt path number) (rest : List Step) :
    document.lookFrom number rest = document.look (path ++ rest) :=
  (lookFrom_append honly.follow rest).symm

theorem look_self (honly : document.IsOnlyAt path number) :
    document.look path = some (document.shape number) := by
  rw [look, Document.lookFrom, honly.follow]
  rfl

/-- A part stands in the same place when others are added. -/
theorem of_keeps (honly : document.IsOnlyAt path number) (hclosed : document.IsClosed)
    (hkeeps : Keeps (fun _ => False) document other) : other.IsOnlyAt path number := by
  have hfollow : ∀ path, other.follow other.root path = document.follow document.root path := by
    intro path
    rw [hkeeps.root]
    exact follow_of_keeps hkeeps hclosed hclosed.root fun _ _ _ _ _ _ => not_false
  refine ⟨(hfollow path).trans honly.follow, fun path' h => honly.only path' ?_⟩
  rw [← hfollow]
  exact h

variable (honly : document.IsOnlyAt path number) (hclosed : document.IsClosed)
  (hkeeps : Keeps (· = number) document other)

include honly hclosed hkeeps

/-- Paths that do not lead behind a part that is changed lead to the same part as before. -/
theorem follow_of_changed {path' : List Step}
    (h : ∀ back, path ++ back = path' → back = []) :
    other.follow other.root path' = document.follow document.root path' := by
  rw [hkeeps.root]
  refine follow_of_keeps hkeeps hclosed hclosed.root fun front back inner hpath hback hfront => ?_
  rintro rfl
  obtain rfl := honly.only front hfront
  exact hback (h back hpath)

/-- The part that is changed stands where it stood. -/
theorem follow_self_of_changed : other.follow other.root path = some number := by
  rw [honly.follow_of_changed hclosed hkeeps fun back hback => List.append_right_eq_self.mp hback]
  exact honly.follow

/-- What was seen in a part that is changed is seen in it as before. -/
theorem lookFrom_of_changed {step : Step} {inner : Nat}
    (hstep : document.next? number step = some inner) :
    other.lookFrom inner = document.lookFrom inner :=
  lookFrom_of_keeps hkeeps hclosed (next?_lt hclosed hstep) fun _ _ => honly.ne_of_follow hstep

theorem follow_inner_of_changed {step : Step} {inner : Nat}
    (hstep : document.next? number step = some inner) (rest : List Step) :
    other.follow inner rest = document.follow inner rest :=
  follow_of_keeps hkeeps hclosed (next?_lt hclosed hstep) fun _ _ _ _ _ =>
    honly.ne_of_follow hstep

/-- **If a part that stands in one place is changed, what is seen changes behind that place.** -/
theorem look_of_changed :
    other.look = Look.replaced path (other.lookFrom number) document.look := by
  funext path'
  by_cases hprefix : path <+: path'
  · obtain ⟨rest, rfl⟩ := hprefix
    rw [Look.replaced_append, look,
      lookFrom_append (honly.follow_self_of_changed hclosed hkeeps)]
  · have hfollow : other.follow other.root path' = document.follow document.root path' :=
      honly.follow_of_changed hclosed hkeeps fun back hback => absurd ⟨back, hback⟩ hprefix
    rw [Look.replaced_of_not_prefix hprefix, look, look, Document.lookFrom, Document.lookFrom,
      hfollow]
    cases hend : document.follow document.root path' with
    | none => rfl
    | some inner =>
        refine congrArg some (shape_of_keeps hkeeps hclosed (follow_lt hclosed hclosed.root hend) ?_)
        rintro rfl
        obtain rfl := honly.only path' hend
        exact hprefix List.prefix_rfl

/-- A part that is changed stands in one place if no path from it leads back to it. -/
theorem of_changed
    (hback : ∀ step rest, other.follow number (step :: rest) ≠ some number) :
    other.IsOnlyAt path number := by
  refine ⟨honly.follow_self_of_changed hclosed hkeeps, fun path' h => ?_⟩
  by_cases hprefix : path <+: path'
  · obtain ⟨rest, rfl⟩ := hprefix
    rw [follow_append, honly.follow_self_of_changed hclosed hkeeps, Option.bind_some] at h
    cases rest with
    | nil => exact List.append_nil path
    | cons step rest => exact absurd h (hback step rest)
  · rw [honly.follow_of_changed hclosed hkeeps fun back hback => absurd ⟨back, hback⟩ hprefix] at h
    exact honly.only path' h

end IsOnlyAt

end Document

end ModuleResolution.Yaml
