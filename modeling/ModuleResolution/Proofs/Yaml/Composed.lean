import ModuleResolution.Proofs.Yaml.Progress
import ModuleResolution.Yaml.Node

/-! # The graph of a text is closed

Whatever is composed of tokens, a node is only named by its number once it is there: the numbers
that are given out, those that names stand for and those in the nodes are numbers of nodes. So every
step of composing keeps a state closed (`Composing.advances_node`), and the graph of a source is
closed (`Graph.isClosed_of_ofSource`).
-/

set_option autoImplicit false

namespace ModuleResolution.Yaml

/-- The numbers in a node are less than a bound. -/
def Content.IsBelow (bound : Nat) : Content → Prop
  | .scalar _ => True
  | .list items => ∀ item ∈ items, item < bound
  | .mapping entries => ∀ entry ∈ entries, entry.1 < bound ∧ entry.2 < bound

theorem Content.IsBelow.mono {content : Content} {bound further : Nat}
    (h : content.IsBelow bound) (hle : bound ≤ further) : content.IsBelow further := by
  cases content with
  | scalar text => trivial
  | list items => exact fun item hitem => Nat.lt_of_lt_of_le (h item hitem) hle
  | mapping entries =>
      intro entry hentry
      obtain ⟨hkey, hvalue⟩ := h entry hentry
      exact ⟨Nat.lt_of_lt_of_le hkey hle, Nat.lt_of_lt_of_le hvalue hle⟩

/-- The numbers in some nodes are numbers of these nodes. -/
def IsClosedUnder (nodes : Array Node) : Prop :=
  ∀ node ∈ nodes, node.content.IsBelow nodes.size

/-- The numbers in a graph are numbers of its nodes. -/
structure Graph.IsClosed (graph : Graph) : Prop where
  nodes : IsClosedUnder graph.nodes
  root : graph.root < graph.nodes.size

/-- The numbers that a composer knows are numbers of its nodes. -/
structure Composer.IsClosed (composer : Composer) : Prop where
  nodes : IsClosedUnder composer.nodes
  names : ∀ named ∈ composer.names, named.2 < composer.nodes.size

theorem isClosedUnder_push {nodes : Array Node} {node : Node} (hnodes : IsClosedUnder nodes)
    (hnode : node.content.IsBelow nodes.size) : IsClosedUnder (nodes.push node) := by
  intro other hother
  rw [Array.size_push]
  rcases Array.mem_push.mp hother with hold | rfl
  · exact (hnodes other hold).mono (Nat.le_succ _)
  · exact hnode.mono (Nat.le_succ _)

theorem isClosedUnder_modify {nodes : Array Node} {number : Nat} {change : Node → Node}
    (hnodes : IsClosedUnder nodes)
    (hchange : ∀ node ∈ nodes, (change node).content.IsBelow nodes.size) :
    IsClosedUnder (nodes.modify number change) := by
  intro other hother
  rw [Array.size_modify]
  obtain ⟨index, hindex, rfl⟩ := Array.mem_iff_getElem.mp hother
  rw [Array.size_modify] at hindex
  rw [Array.getElem_modify]
  split
  · exact hchange _ (Array.getElem_mem hindex)
  · exact hnodes _ (Array.getElem_mem hindex)

namespace Composing

/-- Composing keeps the numbers closed and takes no node away. -/
def progress : Progress Composer where
  isSound := Composer.IsClosed
  le first second := first.nodes.size ≤ second.nodes.size
  refl _ := Nat.le_refl _
  trans := Nat.le_trans

/-- A step of composing from a state with at least so many nodes. -/
abbrev Composes {α : Type} (start : Composer) (step : Composing α)
    (good : Composer → α → Prop) : Prop :=
  progress.Advances start step good

def HasNode (composer : Composer) (number : Nat) : Prop := number < composer.nodes.size

def HasEntry (composer : Composer) (entry : Nat × Nat) : Prop :=
  entry.1 < composer.nodes.size ∧ entry.2 < composer.nodes.size

def Each {α : Type} (good : Composer → α → Prop) (composer : Composer) (values : List α) : Prop :=
  ∀ value ∈ values, good composer value

/-- What is good stays so when nodes are added. -/
structure Stays {α : Type} (good : Composer → α → Prop) : Prop where
  keep {first second : Composer} {value : α} (hle : first.nodes.size ≤ second.nodes.size)
    (h : good first value) : good second value

theorem stays_hasNode : Stays HasNode := ⟨fun hle h => Nat.lt_of_lt_of_le h hle⟩

theorem stays_hasEntry : Stays HasEntry :=
  ⟨fun hle h => ⟨stays_hasNode.keep hle h.1, stays_hasNode.keep hle h.2⟩⟩

theorem Stays.each {α : Type} {good : Composer → α → Prop} (h : Stays good) : Stays (Each good) :=
  ⟨fun hle heach value hvalue => h.keep hle (heach value hvalue)⟩

variable {start : Composer}

/-! ## Steps without new nodes -/

theorem advances_refuse {α : Type} {good : Composer → α → Prop} : Composes start refuse good :=
  Progress.advances_throw _

theorem run_peek (composer : Composer) :
    peek.run composer = composer.scanner.ready.bind fun scanner =>
      .ok (scanner.tokens.head?, { composer with scanner }) := by
  unfold peek
  cases hready : composer.scanner.ready with
  | error failure =>
      simp [hready]
      rfl
  | ok scanner =>
      simp [hready]
      rfl

theorem advances_peek : Composes start peek fun _ _ => True := by
  intro composer hle hclosed token after hrun
  rw [run_peek] at hrun
  cases hready : composer.scanner.ready with
  | error failure =>
      rw [hready] at hrun
      cases hrun
  | ok scanner =>
      rw [hready] at hrun
      cases hrun
      exact ⟨⟨hclosed.nodes, hclosed.names⟩, Nat.le_refl _, trivial⟩

theorem advances_skip : Composes start skip fun _ _ => True := by
  refine Progress.advances_modify fun composer _ hclosed => ?_
  exact ⟨⟨hclosed.nodes, hclosed.names⟩, Nat.le_refl _, trivial⟩

theorem advances_atAnyOf (expected : List Token) :
    Composes start (atAnyOf expected) fun _ _ => True := by
  refine advances_peek.bind fun composer token _ _ _ => ?_
  split
  · exact Progress.advances_pure fun _ _ _ => trivial
  · exact Progress.advances_pure fun _ _ _ => trivial

theorem advances_take? (expected : Token) :
    Composes start (take? expected) fun _ _ => True := by
  refine advances_peek.bind fun composer token _ _ _ => ?_
  split
  · exact advances_skip.bind fun _ _ _ _ _ => Progress.advances_pure fun _ _ _ => trivial
  · exact Progress.advances_pure fun _ _ _ => trivial

theorem advances_take (expected : Token) : Composes start (take expected) fun _ _ => True := by
  refine (advances_take? expected).bind fun composer taken _ _ _ => ?_
  split
  · exact advances_refuse
  · exact Progress.advances_pure fun _ _ _ => trivial

theorem advances_properties : Composes start properties fun _ _ => True := by
  have hdone : ∀ {start : Composer} (properties : Properties),
      Composes start (pure properties) fun _ _ => True :=
    fun _ => Progress.advances_pure fun _ _ _ => trivial
  refine advances_peek.bind fun composer token _ _ _ => ?_
  split
  · refine advances_skip.bind fun composer _ _ _ _ => ?_
    refine advances_peek.bind fun composer token _ _ _ => ?_
    split
    · exact advances_skip.bind fun _ _ _ _ _ => hdone _
    · exact hdone _
  · refine advances_skip.bind fun composer _ _ _ _ => ?_
    refine advances_peek.bind fun composer token _ _ _ => ?_
    split
    · exact advances_skip.bind fun _ _ _ _ _ => hdone _
    · exact hdone _
  · exact hdone _

theorem advances_markOf (tag : TagText) : Composes start (markOf tag) fun _ _ => True := by
  unfold markOf
  cases tag.handle with
  | none => exact Progress.advances_pure fun _ _ _ => trivial
  | some handle =>
      refine (Progress.advances_get (fun _ _ => True) fun _ _ _ => trivial).bind
        fun composer found _ _ _ => ?_
      split
      · exact Progress.advances_pure fun _ _ _ => trivial
      · exact advances_refuse

/-! ## Numbers of nodes -/

theorem advances_named (name : List Char) : Composes start (named name) HasNode := by
  refine (Progress.advances_get (fun composer found => found.IsClosed ∧
    found.nodes.size ≤ composer.nodes.size) fun composer _ hclosed =>
      ⟨hclosed, Nat.le_refl _⟩).bind fun composer found _ _ hfound => ?_
  split
  · next number hlookup =>
      have hnumber : number < found.nodes.size := by
        obtain ⟨before, behind, hnames, -⟩ := List.lookup_eq_some_iff.mp hlookup
        exact hfound.1.names (name, number) (by simp [hnames])
      refine Progress.advances_pure fun state hle _ => ?_
      exact Nat.lt_of_lt_of_le hnumber (Nat.le_trans hfound.2 hle)
  · exact advances_refuse

theorem advances_add (tag : Tag) {content : Content}
    (hcontent : content.IsBelow start.nodes.size) : Composes start (add tag content) HasNode := by
  intro composer hle hclosed number after hrun
  cases hrun
  have hsize : composer.nodes.size < (composer.nodes.push ⟨tag, content⟩).size := by simp
  refine ⟨⟨isClosedUnder_push hclosed.nodes (hcontent.mono hle), ?_⟩, Nat.le_of_lt hsize, hsize⟩
  intro named hnamed
  exact Nat.lt_trans (hclosed.names named hnamed) hsize

theorem advances_addNamed (name : Option (List Char)) (tag : Tag) {content : Content}
    (hcontent : content.IsBelow start.nodes.size) :
    Composes start (addNamed name tag content) HasNode := by
  unfold addNamed
  cases name with
  | none => exact advances_add tag hcontent
  | some name =>
      refine (Progress.advances_get (fun _ _ => True) fun _ _ _ => trivial).bind
        fun composer found hle _ _ => ?_
      split
      · exact advances_refuse
      · refine (advances_add tag (hcontent.mono hle)).bind fun composer number _ _ hnumber => ?_
        have hkeep : Composes composer (modify fun composer : Composer =>
            { composer with names := (name, number) :: composer.names })
              fun state _ => HasNode state number := by
          refine Progress.advances_modify fun state hfurther hclosed => ?_
          have hnode : number < state.nodes.size := Nat.lt_of_lt_of_le hnumber hfurther
          refine ⟨⟨hclosed.nodes, fun named hnamed => ?_⟩, Nat.le_refl _, hnode⟩
          rcases List.mem_cons.mp hnamed with rfl | hnamed
          · exact hnode
          · exact hclosed.names named hnamed
        refine hkeep.bind fun composer _ _ _ hnumber => ?_
        exact Progress.advances_pure fun state hle _ => Nat.lt_of_lt_of_le hnumber hle

theorem advances_blank : Composes start blank HasNode := advances_add .null trivial

theorem advances_complete {number : Nat} {content : Content}
    (hnumber : number < start.nodes.size) (hcontent : content.IsBelow start.nodes.size) :
    Composes start (complete number content) HasNode := by
  unfold complete
  have hput : Composes start (modify fun composer : Composer =>
      { composer with nodes := composer.nodes.modify number fun node => { node with content } })
        fun state _ => HasNode state number := by
    refine Progress.advances_modify fun state hle hclosed => ?_
    have hsize : (state.nodes.modify number fun node => { node with content }).size =
        state.nodes.size := Array.size_modify
    have hnodes : IsClosedUnder (state.nodes.modify number fun node => { node with content }) :=
      isClosedUnder_modify hclosed.nodes fun _ _ => hcontent.mono hle
    refine ⟨⟨hnodes, ?_⟩, Nat.le_of_eq hsize.symm, ?_⟩
    · intro named hnamed
      show named.2 < (state.nodes.modify number _).size
      rw [hsize]
      exact hclosed.names named hnamed
    · show number < (state.nodes.modify number _).size
      rw [hsize]
      exact Nat.lt_of_lt_of_le hnumber hle
  refine hput.bind fun composer _ _ _ hnumber => ?_
  exact Progress.advances_pure fun state hle _ => Nat.lt_of_lt_of_le hnumber hle

theorem advances_nested {α : Type} {step : Composing α} {good : Composer → α → Prop}
    (hgood : Stays good)
    (hstep : Composes start step good) : Composes start (nested step) good := by
  have hdepth : ∀ {start : Composer} (change : Nat → Nat), Composes start
      (modify fun composer : Composer => { composer with depth := change composer.depth })
        fun _ _ => True := by
    intro start change
    refine Progress.advances_modify fun composer _ hclosed => ?_
    exact ⟨⟨hclosed.nodes, hclosed.names⟩, Nat.le_refl _, trivial⟩
  refine (Progress.advances_get (fun _ _ => True) fun _ _ _ => trivial).bind
    fun composer found hle _ _ => ?_
  split
  · exact Progress.advances_throw _
  · refine (hdepth (· + 1)).bind fun composer' _ hle' _ _ => ?_
    refine (hstep.later (Nat.le_trans hle hle')).bind fun composer value _ _ hvalue => ?_
    refine (hdepth (· - 1)).bind fun composer' _ hfurther _ _ => ?_
    exact Progress.advances_pure fun state hle _ => hgood.keep (Nat.le_trans hfurther hle) hvalue

/-! ## Nodes -/

theorem advances_nil {α : Type} {good : Composer → α → Prop} :
    Composes start (pure []) (Each good) := by
  refine Progress.advances_pure fun composer _ _ value hvalue => ?_
  cases hvalue

/-- Behind a value that is composed the others are. -/
theorem advances_cons {α : Type} {good : Composer → α → Prop} {value : α} (hgood : Stays good)
    (hvalue : good start value) {rest : Composing (List α)}
    (hrest : Composes start rest (Each good)) :
    Composes start (do return value :: (← rest)) (Each good) := by
  refine hrest.bind fun composer values hle _ hvalues => ?_
  refine Progress.advances_pure fun state hfurther _ other hother => ?_
  rcases List.mem_cons.mp hother with rfl | hother
  · exact hgood.keep (Nat.le_trans hle hfurther) hvalue
  · exact hgood.keep hfurther (hvalues other hother)

/-- A list is composed: its node is added first, and gets its items when they are there. -/
theorem advances_list (name : Option (List Char)) (tag : Tag) {items : Composing (List Nat)}
    (hitems : ∀ start, Composes start items (Each HasNode)) :
    Composes start (do
      let number ← addNamed name tag (.list [])
      skip
      complete number (.list (← nested items))) HasNode := by
  have hempty : Content.IsBelow start.nodes.size (.list []) := nofun
  refine (advances_addNamed name tag hempty).bind fun composer number _ _ hnumber => ?_
  refine advances_skip.bind fun composer' _ hskip _ _ => ?_
  refine (advances_nested stays_hasNode.each (hitems composer')).bind
    fun composer items hle _ hitems => ?_
  exact advances_complete (stays_hasNode.keep (Nat.le_trans hskip hle) hnumber) hitems

theorem advances_mapping (name : Option (List Char)) (tag : Tag)
    {entries : Composing (List (Nat × Nat))}
    (hentries : ∀ start, Composes start entries (Each HasEntry)) :
    Composes start (do
      let number ← addNamed name tag (.mapping [])
      skip
      complete number (.mapping (← nested entries))) HasNode := by
  have hempty : Content.IsBelow start.nodes.size (.mapping []) := nofun
  refine (advances_addNamed name tag hempty).bind fun composer number _ _ hnumber => ?_
  refine advances_skip.bind fun composer' _ hskip _ _ => ?_
  refine (advances_nested stays_hasEntry.each (hentries composer')).bind
    fun composer entries hle _ hentries => ?_
  exact advances_complete (stays_hasNode.keep (Nat.le_trans hskip hle) hnumber) hentries

/-- What the steps of composing with so much fuel give out: numbers of nodes. -/
structure ComposesWith (fuel : Nat) : Prop where
  node (start : Composer) (position : Position) : Composes start (node position fuel) HasNode
  content (start : Composer) (position : Position) (name : Option (List Char))
    (mark : Option Mark) : Composes start (content position name mark fuel) HasNode
  nodeBefore (start : Composer) (position : Position) (ends : List Token) :
    Composes start (nodeBefore position ends fuel) HasNode
  blockItems (start : Composer) : Composes start (blockItems fuel) (Each HasNode)
  openItems (start : Composer) : Composes start (openItems fuel) (Each HasNode)
  blockEntries (start : Composer) : Composes start (blockEntries fuel) (Each HasEntry)
  flowEntry (start : Composer) (close : Token) : Composes start (flowEntry close fuel) HasEntry
  flowItems (start : Composer) (first : Bool) :
    Composes start (flowItems first fuel) (Each HasNode)
  flowEntries (start : Composer) (first : Bool) :
    Composes start (flowEntries first fuel) (Each HasEntry)

section ComposesWith

variable {fuel : Nat} (h : ComposesWith fuel)
include h

theorem ComposesWith.node_succ (position : Position) :
    Composes start (Composing.node position (fuel + 1)) HasNode := by
  rw [Composing.node]
  refine advances_peek.bind fun composer token _ _ _ => ?_
  split
  · exact advances_skip.bind fun _ _ _ _ _ => advances_named _
  · refine advances_properties.bind fun composer properties _ _ _ => ?_
    have hmark : Composes composer (properties.tag.mapM markOf) fun _ _ => True := by
      cases properties.tag with
      | none => exact Progress.advances_pure fun _ _ _ => trivial
      | some tag =>
          exact (advances_markOf tag).bind fun _ _ _ _ _ =>
            Progress.advances_pure fun _ _ _ => trivial
    exact hmark.bind fun composer mark _ _ _ => h.content composer position _ mark

theorem ComposesWith.content_succ (position : Position) (name : Option (List Char))
    (mark : Option Mark) : Composes start (Composing.content position name mark (fuel + 1))
      HasNode := by
  rw [Composing.content]
  refine advances_peek.bind fun composer token _ _ _ => ?_
  split
  · have hempty : Content.IsBelow composer.nodes.size (.list []) := nofun
    refine (advances_addNamed name _ hempty).bind fun composer number _ _ hnumber => ?_
    refine (advances_nested stays_hasNode.each (h.openItems composer)).bind
      fun composer items hle _ hitems => ?_
    exact advances_complete (stays_hasNode.keep hle hnumber) hitems
  · exact advances_skip.bind fun _ _ _ _ _ => advances_addNamed name _ trivial
  · exact advances_list name _ fun start => h.flowItems start true
  · exact advances_mapping name _ fun start => h.flowEntries start true
  · exact advances_list name _ h.blockItems
  · exact advances_list name _ h.blockItems
  · exact advances_mapping name _ h.blockEntries
  · exact advances_mapping name _ h.blockEntries
  · split
    · exact advances_addNamed name _ trivial
    · exact advances_refuse

theorem ComposesWith.nodeBefore_succ (position : Position) (ends : List Token) :
    Composes start (Composing.nodeBefore position ends (fuel + 1)) HasNode := by
  rw [Composing.nodeBefore]
  refine (advances_atAnyOf ends).bind fun composer there _ _ _ => ?_
  split
  · exact advances_blank
  · exact h.node composer position

theorem ComposesWith.blockItems_succ :
    Composes start (Composing.blockItems (fuel + 1)) (Each HasNode) := by
  rw [Composing.blockItems]
  refine (advances_take? _).bind fun composer there _ _ _ => ?_
  split
  · refine (h.nodeBefore composer _ _).bind fun composer item _ _ hitem => ?_
    exact advances_cons stays_hasNode hitem (h.blockItems composer)
  · exact (advances_take _).bind fun _ _ _ _ _ => advances_nil

theorem ComposesWith.openItems_succ :
    Composes start (Composing.openItems (fuel + 1)) (Each HasNode) := by
  rw [Composing.openItems]
  refine (advances_take? _).bind fun composer there _ _ _ => ?_
  split
  · refine (h.nodeBefore composer _ _).bind fun composer item _ _ hitem => ?_
    exact advances_cons stays_hasNode hitem (h.openItems composer)
  · exact advances_nil

theorem ComposesWith.blockEntries_succ :
    Composes start (Composing.blockEntries (fuel + 1)) (Each HasEntry) := by
  rw [Composing.blockEntries]
  refine (advances_take? _).bind fun composer there _ _ _ => ?_
  split
  · refine (h.nodeBefore composer _ _).bind fun composer key _ _ hkey => ?_
    refine (advances_take? _).bind fun composer' there hle _ _ => ?_
    have hrest : ∀ composer'' value, composer'.nodes.size ≤ composer''.nodes.size →
        HasNode composer'' value →
        Composes composer'' (do return (key, value) :: (← Composing.blockEntries fuel))
          (Each HasEntry) := by
      intro composer'' value hle' hvalue
      have hentry : HasEntry composer'' (key, value) :=
        ⟨stays_hasNode.keep (Nat.le_trans hle hle') hkey, hvalue⟩
      exact advances_cons stays_hasEntry hentry (h.blockEntries composer'')
    split
    · exact (h.nodeBefore composer' _ _).bind fun composer'' value hle' _ =>
        hrest composer'' value hle'
    · exact advances_blank.bind fun composer'' value hle' _ => hrest composer'' value hle'
  · exact (advances_take _).bind fun _ _ _ _ _ => advances_nil

theorem ComposesWith.flowEntry_succ (close : Token) :
    Composes start (Composing.flowEntry close (fuel + 1)) HasEntry := by
  rw [Composing.flowEntry]
  refine (h.nodeBefore start _ _).bind fun composer key _ _ hkey => ?_
  refine (advances_take? _).bind fun composer' there hle _ _ => ?_
  have hrest : ∀ composer'' value, composer'.nodes.size ≤ composer''.nodes.size →
      HasNode composer'' value → Composes composer'' (pure (key, value)) HasEntry := by
    intro composer'' value hle' hvalue
    refine Progress.advances_pure fun state hfurther _ => ?_
    exact ⟨stays_hasNode.keep (Nat.le_trans (Nat.le_trans hle hle') hfurther) hkey,
      stays_hasNode.keep hfurther hvalue⟩
  split
  · exact (h.nodeBefore composer' _ _).bind fun composer'' value hle' _ =>
      hrest composer'' value hle'
  · exact advances_blank.bind fun composer'' value hle' _ => hrest composer'' value hle'

theorem ComposesWith.flowItems_succ (first : Bool) :
    Composes start (Composing.flowItems first (fuel + 1)) (Each HasNode) := by
  rw [Composing.flowItems]
  refine (advances_take? _).bind fun composer there _ _ _ => ?_
  split
  · exact advances_nil
  · -- what comes behind the comma, if there has to be one
    have hrest : ∀ composer : Composer, Composes composer (do
        if ← take? .flowSequenceEnd then return []
        else
          let item ←
            if ← take? .key then
              let entry ← nested (Composing.flowEntry .flowSequenceEnd fuel)
              add .mapping (.mapping [entry])
            else Composing.node .flow fuel
          return item :: (← Composing.flowItems false fuel)) (Each HasNode) := by
      intro composer
      refine (advances_take? _).bind fun composer there _ _ _ => ?_
      split
      · exact advances_nil
      · refine (advances_take? _).bind fun composer there _ _ _ => ?_
        split
        · refine (advances_nested stays_hasEntry (h.flowEntry composer _)).bind
            fun composer entry _ _ hentry => ?_
          have hcontent : Content.IsBelow composer.nodes.size (.mapping [entry]) := by
            intro other hother
            rw [List.mem_singleton.mp hother]
            exact hentry
          exact (advances_add _ hcontent).bind fun composer item _ _ hitem =>
            advances_cons stays_hasNode hitem (h.flowItems composer false)
        · exact (h.node composer _).bind fun composer item _ _ hitem =>
            advances_cons stays_hasNode hitem (h.flowItems composer false)
    split
    · exact (advances_take _).bind fun composer _ _ _ _ => hrest composer
    · exact hrest composer

theorem ComposesWith.flowEntries_succ (first : Bool) :
    Composes start (Composing.flowEntries first (fuel + 1)) (Each HasEntry) := by
  rw [Composing.flowEntries]
  refine (advances_take? _).bind fun composer there _ _ _ => ?_
  split
  · exact advances_nil
  -- after the comma, if there has to be one
  · have hrest : ∀ composer : Composer, Composes composer (do
        if ← take? .flowMappingEnd then return []
        else
          let entry ←
            if ← take? .key then Composing.flowEntry .flowMappingEnd fuel
            else
              let key ← Composing.node .flow fuel
              pure (key, ← blank)
          return entry :: (← Composing.flowEntries false fuel)) (Each HasEntry) := by
      intro composer
      refine (advances_take? _).bind fun composer there _ _ _ => ?_
      split
      · exact advances_nil
      · refine (advances_take? _).bind fun composer there _ _ _ => ?_
        split
        · exact (h.flowEntry composer _).bind fun composer entry _ _ hentry =>
            advances_cons stays_hasEntry hentry (h.flowEntries composer false)
        · refine (h.node composer _).bind fun composer key _ _ hkey => ?_
          refine advances_blank.bind fun composer' value hle _ hvalue => ?_
          have hentry : HasEntry composer' (key, value) := ⟨stays_hasNode.keep hle hkey, hvalue⟩
          exact advances_cons stays_hasEntry hentry (h.flowEntries composer' false)
    split
    · exact (advances_take _).bind fun composer _ _ _ _ => hrest composer
    · exact hrest composer

end ComposesWith

/-- **Whatever is composed has numbers of nodes only.** -/
theorem composesWith (fuel : Nat) : ComposesWith fuel := by
  induction fuel with
  | zero => constructor <;> intros <;> exact advances_refuse
  | succ fuel ih =>
      exact ⟨fun _ => ih.node_succ, fun _ => ih.content_succ, fun _ => ih.nodeBefore_succ,
        fun _ => ih.blockItems_succ, fun _ => ih.openItems_succ, fun _ => ih.blockEntries_succ,
        fun _ => ih.flowEntry_succ, fun _ => ih.flowItems_succ, fun _ => ih.flowEntries_succ⟩

/-! ## Documents -/

theorem advances_obey (seen : List Directive) (directive : Directive) :
    Composes start (obey seen directive) fun _ _ => True := by
  cases directive with
  | version major =>
      rw [obey]
      split
      · exact Progress.advances_pure fun _ _ _ => trivial
      · exact advances_refuse
  | tagHandle handle text =>
      rw [obey]
      split
      · exact advances_refuse
      · refine Progress.advances_modify fun composer _ hclosed => ?_
        exact ⟨⟨hclosed.nodes, hclosed.names⟩, Nat.le_refl _, trivial⟩
  | other => exact Progress.advances_pure fun _ _ _ => trivial

theorem advances_directives (fuel : Nat) (seen : List Directive) :
    Composes start (directives fuel seen) fun _ _ => True := by
  induction fuel generalizing seen start with
  | zero => exact advances_refuse
  | succ fuel ih =>
      rw [directives]
      refine advances_peek.bind fun composer token _ _ _ => ?_
      split
      · refine advances_skip.bind fun _ _ _ _ _ => ?_
        exact (advances_obey seen _).bind fun _ _ _ _ _ => ih _
      · exact Progress.advances_pure fun _ _ _ => trivial

theorem advances_documentEnds (fuel : Nat) :
    Composes start (documentEnds fuel) fun _ _ => True := by
  induction fuel generalizing start with
  | zero => exact advances_refuse
  | succ fuel ih =>
      rw [documentEnds]
      refine (advances_take? _).bind fun composer there _ _ _ => ?_
      split
      · exact ih
      · exact Progress.advances_pure fun _ _ _ => trivial

theorem advances_root (fuel : Nat) : Composes start (root fuel) HasNode := by
  refine (advances_directives fuel []).bind fun composer announced _ _ _ => ?_
  refine (advances_take? _).bind fun composer marked _ _ _ => ?_
  split
  · exact advances_refuse
  · split
    · refine advances_peek.bind fun composer token _ _ _ => ?_
      split
      · exact advances_blank
      · exact (composesWith fuel).nodeBefore composer _ _
    · exact (composesWith fuel).node composer _

theorem advances_document (fuel : Nat) :
    Composes start (document fuel) fun composer root =>
      ∀ number, root = some number → HasNode composer number := by
  have hnone : ∀ {composer : Composer}, Composes composer (pure none) fun composer root =>
      ∀ number, root = some number → HasNode composer number :=
    Progress.advances_pure fun _ _ _ => nofun
  refine advances_peek.bind fun composer token _ _ _ => ?_
  split
  · exact hnone
  · refine (advances_root fuel).bind fun composer root _ _ hroot => ?_
    refine (advances_documentEnds fuel).bind fun composer' _ hends _ _ => ?_
    refine advances_peek.bind fun composer'' token hpeek _ _ => ?_
    split
    · refine Progress.advances_pure fun state hle _ number hnumber => ?_
      cases hnumber
      exact stays_hasNode.keep (Nat.le_trans (Nat.le_trans hends hpeek) hle) hroot
    · refine (advances_directives fuel []).bind fun composer _ _ _ _ => ?_
      exact advances_peek.bind fun _ _ _ _ _ => advances_refuse

end Composing

/-- **The graph of a source is closed.** -/
theorem Graph.isClosed_of_ofSource {source : Source} {graph : Graph}
    (h : ofSource source = .ok (some graph)) : graph.IsClosed := by
  unfold ofSource at h
  dsimp only at h
  let start : Composer := { scanner := .ofSource source }
  have hstart : start.IsClosed := ⟨nofun, nofun⟩
  cases hrun : (Composing.document (16 * source.text.length + 64)).run start with
  | error failure =>
      rw [hrun] at h
      cases h
  | ok result =>
      obtain ⟨root, composer⟩ := result
      rw [hrun] at h
      obtain ⟨hclosed, -, hroot⟩ := Composing.advances_document _ start (Nat.le_refl _) hstart
        root composer hrun
      cases root with
      | none => cases h
      | some root =>
          cases h
          exact ⟨hclosed.nodes, hroot root rfl⟩

end ModuleResolution.Yaml
