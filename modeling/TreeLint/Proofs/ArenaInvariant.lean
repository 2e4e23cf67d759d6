import Mathlib.Data.List.Nodup
import Mathlib.Data.List.Perm.Basic
import Mathlib.Data.List.Range
import Mathlib.Logic.Relation
import TreeLint.Proofs.BuilderRuns
import TreeLint.Proofs.LinkTable

/-!
# The arena holds one tree

Each call of a builder moves indices between three places: the slots of
completed nodes, the slots of open nodes and the list of roots.  Together they
hold every index of the arena exactly once after any run, and the indices in
the slots of a node increase.  A frozen tree therefore has its root at the end
of the arena, every other node stands in exactly one slot, the table of links
leads back to that slot, and every node is reached from the root.
-/

namespace TreeLint

/-- The indices in the slots that are not absent. -/
def presentSlots (slots : Array (Option Nat)) : List Nat :=
  slots.toList.filterMap fun slot => slot

@[simp]
theorem presentSlots_empty : presentSlots #[] = [] := rfl

@[simp]
theorem presentSlots_push_none (slots : Array (Option Nat)) :
    presentSlots (slots.push none) = presentSlots slots := by
  simp [presentSlots]

@[simp]
theorem presentSlots_push_some (slots : Array (Option Nat)) (id : Nat) :
    presentSlots (slots.push (some id)) = presentSlots slots ++ [id] := by
  simp [presentSlots]

theorem mem_presentSlots {slots : Array (Option Nat)} {id : Nat} :
    id ∈ presentSlots slots ↔ some id ∈ slots := by
  simp [presentSlots]

/-- The present children of a node follow one another with growing index. -/
def Increasing (slots : Array (Option Nat)) : Prop :=
  (presentSlots slots).Pairwise (· < ·)

theorem Increasing.empty : Increasing #[] := List.Pairwise.nil

theorem Increasing.push_none {slots : Array (Option Nat)} (increasing : Increasing slots) :
    Increasing (slots.push none) := by
  simpa [Increasing] using increasing

theorem Increasing.push_some {slots : Array (Option Nat)} {id : Nat}
    (increasing : Increasing slots) (below : SlotsBelow slots id) :
    Increasing (slots.push (some id)) := by
  rw [Increasing, presentSlots_push_some, List.pairwise_append]
  refine ⟨increasing, List.pairwise_singleton _ _, ?_⟩
  intro child isChild new isNew
  rw [List.mem_singleton.mp isNew]
  exact below child (mem_presentSlots.mp isChild)

theorem Increasing.slot_unique {slots : Array (Option Nat)} (increasing : Increasing slots)
    {first second child : Nat} (atFirst : slots[first]? = some (some child))
    (atSecond : slots[second]? = some (some child)) : first = second := by
  rw [Increasing, presentSlots, List.pairwise_filterMap, List.pairwise_iff_getElem] at increasing
  obtain ⟨firstInside, firstHolds⟩ := Array.getElem?_eq_some_iff.mp atFirst
  obtain ⟨secondInside, secondHolds⟩ := Array.getElem?_eq_some_iff.mp atSecond
  rcases Nat.lt_trichotomy first second with before | same | behind
  · have grows := increasing first second firstInside secondInside before
      child firstHolds child secondHolds
    omega
  · exact same
  · have grows := increasing second first secondInside firstInside behind
      child secondHolds child firstHolds
    omega

namespace Builder

/-- All indices that stand somewhere: in a slot of a completed node, in a slot
of an open node or among the roots. -/
def held (builder : Builder) : List Nat :=
  (builder.nodes.toList.flatMap fun data => presentSlots data.slots) ++
    (builder.opened.flatMap fun node => presentSlots node.slots) ++ builder.roots.toList

/-- Every index of the arena stands in exactly one place, and the indices in
the slots of each node increase. -/
structure Arranged (builder : Builder) : Prop where
  once : builder.held.Perm (List.range builder.nodes.size)
  nodesIncrease : ∀ data ∈ builder.nodes, Increasing data.slots
  openedIncrease : ∀ node ∈ builder.opened, Increasing node.slots

theorem arranged_empty : Arranged empty where
  once := by simp [held, empty]
  nodesIncrease := by simp [empty]
  openedIncrease := by simp [empty]

theorem arranged_startNode {builder : Builder} (arranged : Arranged builder) (kind : Kind) :
    Arranged (builder.startNode kind) where
  once := by simpa [held, startNode] using arranged.once
  nodesIncrease := arranged.nodesIncrease
  openedIncrease := by
    intro node isOpen
    rcases List.mem_cons.mp isOpen with new | old
    · subst new
      exact Increasing.empty
    · exact arranged.openedIncrease node old

/-- A completed node brings the indices in its slots along and adds its own. -/
theorem held_complete (builder : Builder) (data : NodeData)
    (below : SlotsBelow data.slots builder.nodes.size) :
    (builder.complete data below).held.Perm
      (presentSlots data.slots ++ builder.held ++ [builder.nodes.size]) := by
  rw [List.perm_iff_count]
  intro id
  cases opened : builder.opened with
  | nil =>
      obtain ⟨stillClosed, roots⟩ := complete_of_closed data below opened
      simp only [held, complete_nodes, stillClosed, roots, opened, Array.toList_push,
        List.flatMap_append, List.flatMap_singleton, List.flatMap_nil, List.count_append,
        List.count_nil]
      omega
  | cons node outer =>
      obtain ⟨filled, roots⟩ := complete_of_open data below opened
      simp only [held, complete_nodes, filled, roots, opened, Array.toList_push,
        List.flatMap_append, List.flatMap_cons, List.flatMap_nil, presentSlots_push_some,
        List.count_append, List.count_nil]
      omega

/-- Completing a node keeps the arrangement, provided that its slots were filled
with the indices that are missing elsewhere. -/
theorem arranged_complete (builder : Builder) (data : NodeData)
    (below : SlotsBelow data.slots builder.nodes.size)
    (once : (presentSlots data.slots ++ builder.held).Perm
      (List.range builder.nodes.size))
    (nodesIncrease : ∀ data ∈ builder.nodes, Increasing data.slots)
    (openedIncrease : ∀ node ∈ builder.opened, Increasing node.slots)
    (increasing : Increasing data.slots) :
    Arranged (builder.complete data below) where
  once := by
    rw [complete_nodes, Array.size_push, List.range_succ]
    exact (held_complete builder data below).trans (once.append_right _)
  nodesIncrease := by
    intro entry isNode
    rw [complete_nodes] at isNode
    rcases Array.mem_push.mp isNode with old | new
    · exact nodesIncrease entry old
    · subst new
      exact increasing
  openedIncrease := by
    intro frame isOpen
    cases opened : builder.opened with
    | nil =>
        rw [(complete_of_closed data below opened).1] at isOpen
        simp at isOpen
    | cons node outer =>
        rw [(complete_of_open data below opened).1] at isOpen
        rcases List.mem_cons.mp isOpen with new | old
        · subst new
          have isInnermost : node ∈ builder.opened := by simp [opened]
          exact (openedIncrease node isInnermost).push_some
            (builder.openedBelow node isInnermost)
        · exact openedIncrease frame (by simp [opened, old])

theorem arranged_token {builder : Builder} (arranged : Arranged builder) (kind : Kind)
    (text : String) (line column : UInt32) :
    Arranged (builder.token kind text line column).2 :=
  arranged_complete builder (.token kind text ⟨line, column⟩) (SlotsBelow.empty _)
    arranged.once arranged.nodesIncrease arranged.openedIncrease Increasing.empty

theorem arranged_missing {builder : Builder} (arranged : Arranged builder) :
    Arranged builder.missing.2 := by
  cases opened : builder.opened with
  | nil =>
      rw [missing_of_closed opened]
      exact arranged
  | cons node outer =>
      obtain ⟨-, nodes, filled, roots⟩ := missing_of_open opened
      have sameHeld : builder.missing.2.held = builder.held := by
        simp [held, nodes, filled, roots, opened]
      refine ⟨?_, ?_, ?_⟩
      · rw [sameHeld, nodes]
        exact arranged.once
      · rw [nodes]
        exact arranged.nodesIncrease
      · intro frame isOpen
        rw [filled] at isOpen
        rcases List.mem_cons.mp isOpen with new | old
        · subst new
          exact (arranged.openedIncrease node (by simp [opened])).push_none
        · exact arranged.openedIncrease frame (by simp [opened, old])

theorem arranged_finishNode {builder : Builder} (arranged : Arranged builder) :
    Arranged builder.finishNode.2 := by
  cases opened : builder.opened with
  | nil =>
      rw [finishNode_of_closed opened]
      exact arranged
  | cons node outer =>
      rw [finishNode_of_open opened]
      have moved : (presentSlots node.slots ++ (builder.leaveInnermost opened).held).Perm
          builder.held := by
        rw [List.perm_iff_count]
        intro id
        simp only [held, leaveInnermost, opened, List.flatMap_cons, List.count_append]
        omega
      exact arranged_complete (builder.leaveInnermost opened)
        (.compound node.kind node.slots) (builder.openedBelow node (by simp [opened]))
        (moved.trans arranged.once) arranged.nodesIncrease
        (fun frame isOpen => arranged.openedIncrease frame
          (opened ▸ List.mem_cons_of_mem node isOpen))
        (arranged.openedIncrease node (by simp [opened]))

/-- Every call keeps the arrangement, also one that is refused. -/
theorem arranged_call (builder : Builder) (call : BuildCall) (arranged : Arranged builder) :
    Arranged (builder.call call).2 := by
  cases call with
  | start kind => exact arranged_startNode arranged kind
  | token kind text line column => exact arranged_token arranged kind text line column
  | missing => exact arranged_missing arranged
  | finish => exact arranged_finishNode arranged

theorem arranged_callAll (calls : List BuildCall) : Arranged (empty.callAll calls) :=
  callAll_induction arranged_empty arranged_call calls

end Builder

/-! ## Frozen trees -/

namespace Builder

theorem Arranged.nodup {builder : Builder} (arranged : Arranged builder) :
    builder.held.Nodup :=
  arranged.once.nodup_iff.mpr List.nodup_range

theorem Arranged.count_eq {builder : Builder} (arranged : Arranged builder) (id : Nat) :
    builder.held.count id = if id < builder.nodes.size then 1 else 0 := by
  rw [arranged.once.count_eq, List.nodup_range.count]
  simp only [List.mem_range]

theorem Arranged.not_shared {builder : Builder} (arranged : Arranged builder)
    {one other child : Nat} {oneData otherData : NodeData} (before : one < other)
    (oneNode : builder.nodes[one]? = some oneData)
    (otherNode : builder.nodes[other]? = some otherData)
    (inOne : some child ∈ oneData.slots) : some child ∉ otherData.slots := by
  intro inOther
  have inNodes : (builder.nodes.toList.flatMap fun data => presentSlots data.slots).Nodup :=
    (List.nodup_append.mp (List.nodup_append.mp arranged.nodup).1).1
  have disjoint := List.pairwise_iff_getElem.mp (List.nodup_flatMap.mp inNodes).2
  obtain ⟨oneInside, rfl⟩ := Array.getElem?_eq_some_iff.mp oneNode
  obtain ⟨otherInside, rfl⟩ := Array.getElem?_eq_some_iff.mp otherNode
  exact disjoint one other oneInside otherInside before
    (mem_presentSlots.mpr inOne) (mem_presentSlots.mpr inOther)

theorem Arranged.link_unique {builder : Builder} (arranged : Arranged builder) (child : Nat)
    (one other : Link) (oneLeads : one.LeadsFrom builder.nodes child)
    (otherLeads : other.LeadsFrom builder.nodes child) : one = other := by
  obtain ⟨oneData, oneNode, oneSlot⟩ := oneLeads
  obtain ⟨otherData, otherNode, otherSlot⟩ := otherLeads
  have inOne := Array.mem_of_getElem? oneSlot
  have inOther := Array.mem_of_getElem? otherSlot
  rcases Nat.lt_trichotomy one.parent other.parent with before | same | behind
  · exact (arranged.not_shared before oneNode otherNode inOne inOther).elim
  · rw [same, otherNode, Option.some.injEq] at oneNode
    subst oneNode
    have increasing := arranged.nodesIncrease otherData (Array.mem_of_getElem? otherNode)
    have sameSlot := increasing.slot_unique oneSlot otherSlot
    cases one
    cases other
    simp_all
  · exact (arranged.not_shared behind otherNode oneNode inOther inOne).elim

/-- Every index of the arena stands in a slot of a completed node, in a slot of
an open one or among the roots. -/
theorem Arranged.placed {builder : Builder} (arranged : Arranged builder) {id : Nat}
    (inside : id < builder.nodes.size) :
    (∃ link : Link, link.LeadsFrom builder.nodes id) ∨
      (∃ node ∈ builder.opened, some id ∈ node.slots) ∨ id ∈ builder.roots := by
  have isHeld : id ∈ builder.held := arranged.once.mem_iff.mpr (List.mem_range.mpr inside)
  rw [held, List.mem_append, List.mem_append, List.mem_flatMap, List.mem_flatMap] at isHeld
  rcases isHeld with (⟨data, isNode, inSlots⟩ | ⟨node, isOpen, inSlots⟩) | isRoot
  · left
    obtain ⟨parent, parentInside, rfl⟩ := Array.mem_iff_getElem.mp (Array.mem_toList_iff.mp isNode)
    obtain ⟨slot, slotInside, holds⟩ := Array.mem_iff_getElem.mp (mem_presentSlots.mp inSlots)
    exact ⟨⟨parent, slot⟩, builder.nodes[parent], Array.getElem?_eq_getElem parentInside,
      Array.getElem?_eq_some_iff.mpr ⟨slotInside, holds⟩⟩
  · exact .inr (.inl ⟨node, isOpen, mem_presentSlots.mp inSlots⟩)
  · exact .inr (.inr (Array.mem_toList_iff.mp isRoot))

theorem Arranged.root_unlinked {builder : Builder} (arranged : Arranged builder) {root : Nat}
    (isRoot : root ∈ builder.roots) (link : Link) :
    ¬ link.LeadsFrom builder.nodes root := by
  rintro ⟨data, isNode, isSlot⟩
  have inSlots := mem_presentSlots.mpr (Array.mem_of_getElem? isSlot)
  have inNodes : root ∈ builder.nodes.toList.flatMap fun data => presentSlots data.slots :=
    List.mem_flatMap.mpr ⟨data, Array.mem_toList_iff.mpr (Array.mem_of_getElem? isNode), inSlots⟩
  have apart := (List.nodup_append.mp arranged.nodup).2.2
  exact apart root (List.mem_append_left _ inNodes) root (Array.mem_toList_iff.mpr isRoot) rfl

end Builder

namespace Tree

theorem getElem?_slots_iff (tree : Tree) (child : Nat) (link : Link) :
    (tree.slots link.parent)[link.slot]? = some (some child) ↔
      link.LeadsFrom tree.nodes child := by
  unfold slots Link.LeadsFrom
  cases tree.nodes[link.parent]? with
  | none => simp
  | some data => simp

/-- The tree was frozen from a builder in which every index has one place. -/
structure FrozenFrom (tree : Tree) (builder : Builder) : Prop where
  arranged : builder.Arranged
  closed : builder.opened = []
  roots : builder.roots = #[tree.root]
  nodes : tree.nodes = builder.nodes

theorem frozenFrom_of_finish {tree : Tree} {calls : List BuildCall}
    (frozen : (Builder.after calls).finish = .ok tree) :
    tree.FrozenFrom (Builder.after calls) := by
  obtain ⟨closed, roots, nodes⟩ := Builder.finish_ok frozen
  exact ⟨Builder.arranged_callAll calls, closed, roots, nodes⟩

namespace FrozenFrom

variable {tree : Tree} {builder : Builder}

theorem exists_link (frozen : tree.FrozenFrom builder) {id : Nat} (inside : id < tree.size)
    (notRoot : id ≠ tree.root) : ∃ link : Link, link.LeadsFrom tree.nodes id := by
  rw [size, frozen.nodes] at inside
  rcases frozen.arranged.placed inside with linked | ⟨node, isOpen, -⟩ | isRoot
  · rwa [frozen.nodes]
  · simp [frozen.closed] at isOpen
  · simp [frozen.roots, notRoot] at isRoot

/-- The root is the node that was completed last. -/
theorem root_succ_eq_size (frozen : tree.FrozenFrom builder) : tree.root + 1 = tree.size := by
  have rooted : tree.root < tree.size := tree.rooted
  by_contra notLast
  have lastInside : tree.size - 1 < tree.size := by omega
  obtain ⟨link, data, isNode, isSlot⟩ := frozen.exists_link lastInside (by omega)
  have before := tree.childrenFirst link.parent data _ isNode (Array.mem_of_getElem? isSlot)
  have parentInside : link.parent < tree.size := (Array.getElem?_eq_some_iff.mp isNode).1
  omega

theorem link_unique (frozen : tree.FrozenFrom builder) (child : Nat) (one other : Link)
    (oneLeads : one.LeadsFrom tree.nodes child) (otherLeads : other.LeadsFrom tree.nodes child) :
    one = other := by
  rw [frozen.nodes] at oneLeads otherLeads
  exact frozen.arranged.link_unique child one other oneLeads otherLeads

/-- The links are the exact inverse of the slots. -/
theorem link?_eq_some_iff (frozen : tree.FrozenFrom builder) (child : Nat) (link : Link) :
    tree.link? child = some link ↔ (tree.slots link.parent)[link.slot]? = some (some child) := by
  rw [getElem?_slots_iff, ← linksOf_eq_some_iff tree.childrenFirst frozen.link_unique,
    ← tree.linked, link?]
  cases tree.links[child]? <;> simp

theorem link?_root (frozen : tree.FrozenFrom builder) : tree.link? tree.root = none := by
  rw [Option.eq_none_iff_forall_ne_some]
  intro link found
  rw [frozen.link?_eq_some_iff, getElem?_slots_iff, frozen.nodes] at found
  exact frozen.arranged.root_unlinked (by simp [frozen.roots]) link found

end FrozenFrom

/-- One node stands in a slot of the other. -/
def IsChild (tree : Tree) (parent child : Nat) : Prop :=
  child ∈ tree.children parent

theorem isChild_of_leadsFrom {tree : Tree} {child : Nat} {link : Link}
    (leads : link.LeadsFrom tree.nodes child) : tree.IsChild link.parent child := by
  have holds := (tree.getElem?_slots_iff child link).mpr leads
  exact mem_presentSlots.mpr (Array.mem_of_getElem? holds)

theorem lt_of_transGen_isChild {tree : Tree} {above below : Nat}
    (path : Relation.TransGen tree.IsChild above below) : below < above := by
  induction path with
  | single isChild => exact lt_of_mem_children isChild
  | tail _ isChild ih => exact Nat.lt_trans (lt_of_mem_children isChild) ih

theorem FrozenFrom.reachable {tree : Tree} {builder : Builder}
    (frozen : tree.FrozenFrom builder) {id : Nat} (inside : id < tree.size) :
    Relation.ReflTransGen tree.IsChild tree.root id := by
  -- a parent stands behind its children, so the distance to the end shrinks
  induction distance : tree.size - id using Nat.strong_induction_on generalizing id with
  | h distance ih =>
      by_cases isRoot : id = tree.root
      · rw [isRoot]
      · obtain ⟨link, leads⟩ := frozen.exists_link inside isRoot
        have isChild := isChild_of_leadsFrom leads
        have before := lt_of_mem_children isChild
        obtain ⟨data, isNode, -⟩ := leads
        have parentInside : link.parent < tree.size := (Array.getElem?_eq_some_iff.mp isNode).1
        exact (ih (tree.size - link.parent) (by omega) parentInside rfl).tail isChild

end Tree

/-- After any run, refused calls included, every index of the arena stands in
exactly one place, and the children in the slots of each node have increasing
indices, below that of a completed node.  A tree frozen after the run is one
tree: its root was completed last, every other node stands in exactly one slot,
the links lead back to that slot, and every node is reached from the root. -/
theorem arena_holds_one_tree (calls : List BuildCall) :
    (∀ id, (Builder.after calls).held.count id =
      if id < (Builder.after calls).nodes.size then 1 else 0) ∧
    (∀ data ∈ (Builder.after calls).nodes, Increasing data.slots) ∧
    (∀ node ∈ (Builder.after calls).opened, Increasing node.slots) ∧
    (∀ (id : Nat) (data : NodeData) (child : Nat),
      (Builder.after calls).nodes[id]? = some data →
        some child ∈ data.slots → child < id) ∧
    ∀ tree, (Builder.after calls).finish = .ok tree →
      tree.root + 1 = tree.size ∧
      (∀ child < tree.size, child ≠ tree.root → ∃! link : Link,
        (tree.slots link.parent)[link.slot]? = some (some child)) ∧
      (∀ child link, tree.link? child = some link ↔
        (tree.slots link.parent)[link.slot]? = some (some child)) ∧
      tree.link? tree.root = none ∧
      (∀ id < tree.size, Relation.ReflTransGen tree.IsChild tree.root id) ∧
      ∀ id, ¬ Relation.TransGen tree.IsChild id id := by
  have arranged := Builder.arranged_callAll calls
  refine ⟨arranged.count_eq, arranged.nodesIncrease, arranged.openedIncrease,
    (Builder.after calls).childrenFirst, ?_⟩
  intro tree finished
  have frozen := Tree.frozenFrom_of_finish finished
  refine ⟨frozen.root_succ_eq_size, ?_, frozen.link?_eq_some_iff, frozen.link?_root,
    fun id inside => frozen.reachable inside, ?_⟩
  · intro child inside notRoot
    obtain ⟨link, leads⟩ := frozen.exists_link inside notRoot
    refine ⟨link, (tree.getElem?_slots_iff child link).mpr leads, ?_⟩
    intro other holds
    exact frozen.link_unique child other link ((tree.getElem?_slots_iff child other).mp holds) leads
  · intro id cycle
    exact Nat.lt_irrefl id (Tree.lt_of_transGen_isChild cycle)

theorem bareReturn_holds_one_tree :
    ∃ tree, (Builder.after bareReturn).finish = .ok tree ∧ tree.size = 3 ∧
      tree.root + 1 = tree.size ∧
      (tree.link? 1 = some ⟨2, 2⟩ ↔ (tree.slots 2)[2]? = some (some 1)) ∧
      tree.link? tree.root = none ∧
      ∀ id < tree.size, Relation.ReflTransGen tree.IsChild tree.root id := by
  refine ⟨_, rfl, rfl, ?_⟩
  obtain ⟨-, -, -, -, frozen⟩ := arena_holds_one_tree bareReturn
  obtain ⟨root, -, links, noLink, reachable, -⟩ := frozen _ rfl
  exact ⟨root, links 1 ⟨2, 2⟩, noLink, reachable⟩

end TreeLint
