import Mathlib.Data.List.Basic
import TreeLint.Proofs.Lineage

/-!
# Moving among siblings

The siblings of a node are found from its link: the slots of the parent behind
the linked one, or before it, are searched for a present child.  The link leads
to the slot that holds the node, so this slot divides the children of the parent
into those before the node and those behind it, however many absent slots lie
around.  Everything about moves to the left and to the right follows from this
division.
-/

namespace TreeLint

/-- Going from `start` by `move` until there is nowhere to go meets exactly the
nodes of the list, in this order. -/
def Meets (move : Nat → Option Nat) : Option Nat → List Nat → Prop
  | start, [] => start = none
  | start, node :: rest => start = some node ∧ Meets move (move node) rest

theorem meets_of_moves {move : Nat → Option Nat} {row : List Nat}
    (moves : ∀ before node after, row = before ++ node :: after → move node = after.head?) :
    Meets move row.head? row := by
  induction row with
  | nil => rfl
  | cons node rest ih =>
      constructor
      · rfl
      · rw [moves [] node rest rfl]
        apply ih
        intro before other after division
        exact moves (node :: before) other after (by rw [division, List.cons_append])

namespace Tree

/-- The slot that holds a child divides the children of the node. -/
theorem children_division {tree : Tree} {parent slot child : Nat}
    (held : (tree.slots parent)[slot]? = some (some child)) :
    tree.children parent =
      ((tree.slots parent).toList.take slot).filterMap id ++
        child :: ((tree.slots parent).toList.drop (slot + 1)).filterMap id := by
  rw [← Array.getElem?_toList] at held
  obtain ⟨inside, holds⟩ := List.getElem?_eq_some_iff.mp held
  have parts := List.take_append_drop slot (tree.slots parent).toList
  rw [List.drop_eq_getElem_cons inside, holds] at parts
  calc
    tree.children parent = (tree.slots parent).toList.filterMap id := rfl
    _ = _ := by
      rw [← congrArg (List.filterMap id) parts, List.filterMap_append,
        List.filterMap_cons_some (f := id) rfl]

/-- The second node directly follows the first among the children of one parent. -/
def Adjacent (tree : Tree) (first second : Nat) : Prop :=
  ∃ parent before after, tree.children parent = before ++ first :: second :: after

namespace FrozenFrom

variable {tree : Tree} {builder : Builder}

theorem pairwise_children (frozen : tree.FrozenFrom builder) (id : Nat) :
    (tree.children id).Pairwise (· < ·) := by
  unfold children slots
  split
  · rename_i data found
    rw [frozen.nodes] at found
    exact frozen.arranged.nodesIncrease data (Array.mem_of_getElem? found)
  · exact List.Pairwise.nil

theorem nodup_children (frozen : tree.FrozenFrom builder) (id : Nat) :
    (tree.children id).Nodup :=
  (frozen.pairwise_children id).imp Nat.ne_of_lt

/-- The siblings of a child are its neighbours among the children. -/
theorem siblings_of_division (frozen : tree.FrozenFrom builder) {parent child : Nat}
    {before after : List Nat} (division : tree.children parent = before ++ child :: after) :
    tree.nextSibling? child = after.head? ∧ tree.prevSibling? child = before.getLast? := by
  have isChild : child ∈ tree.children parent := by simp [division]
  obtain ⟨slot, held⟩ := Array.mem_iff_getElem?.mp (mem_presentSlots.mp isChild)
  have linked := (frozen.link?_eq_some_iff child ⟨parent, slot⟩).mpr held
  -- a child stands among the children only once, so there is only one division
  have onlyOnce := frozen.nodup_children parent
  rw [division, List.nodup_middle, List.nodup_cons, List.mem_append, not_or] at onlyOnce
  obtain ⟨⟨notBefore, notAfter⟩, -⟩ := onlyOnce
  have same := division.symm.trans (children_division held)
  obtain ⟨isBefore, -, isAfter⟩ :=
    (List.append_cons_inj_of_notMem notBefore notAfter).mp same
  constructor
  · rw [nextSibling?, linked, isAfter, List.head?_filterMap]
    exact firstPresentFrom?_eq _ _
  · rw [prevSibling?, linked, isBefore, List.getLast?_filterMap]
    exact lastPresentBefore?_eq _ _

theorem exists_division_of_link (frozen : tree.FrozenFrom builder) {child : Nat} {link : Link}
    (linked : tree.link? child = some link) :
    ∃ before after, tree.children link.parent = before ++ child :: after :=
  ⟨_, _, children_division ((frozen.link?_eq_some_iff child link).mp linked)⟩

theorem nextSibling?_eq_some_iff (frozen : tree.FrozenFrom builder) (first second : Nat) :
    tree.nextSibling? first = some second ↔ tree.Adjacent first second := by
  constructor
  · intro found
    cases linked : tree.link? first with
    | none => simp [nextSibling?, linked] at found
    | some link =>
        obtain ⟨before, after, division⟩ := frozen.exists_division_of_link linked
        rw [(frozen.siblings_of_division division).1] at found
        obtain ⟨rest, rfl⟩ := List.head?_eq_some_iff.mp found
        exact ⟨link.parent, before, rest, division⟩
  · rintro ⟨parent, before, after, division⟩
    exact (frozen.siblings_of_division division).1

theorem prevSibling?_eq_some_iff (frozen : tree.FrozenFrom builder) (first second : Nat) :
    tree.prevSibling? second = some first ↔ tree.Adjacent first second := by
  constructor
  · intro found
    cases linked : tree.link? second with
    | none => simp [prevSibling?, linked] at found
    | some link =>
        obtain ⟨before, after, division⟩ := frozen.exists_division_of_link linked
        rw [(frozen.siblings_of_division division).2] at found
        obtain ⟨rest, rfl⟩ := List.getLast?_eq_some_iff.mp found
        rw [List.append_assoc, List.singleton_append] at division
        exact ⟨link.parent, rest, after, division⟩
  · rintro ⟨parent, before, after, division⟩
    have regrouped : tree.children parent = (before ++ [first]) ++ second :: after := by
      rw [division, List.append_assoc, List.singleton_append]
    rw [(frozen.siblings_of_division regrouped).2, List.getLast?_concat]

theorem meets_children (frozen : tree.FrozenFrom builder) (id : Nat) :
    Meets tree.nextSibling? (tree.firstChild? id) (tree.children id) := by
  apply meets_of_moves
  intro before node after division
  exact (frozen.siblings_of_division division).1

theorem meets_children_reverse (frozen : tree.FrozenFrom builder) (id : Nat) :
    Meets tree.prevSibling? (tree.lastChild? id) (tree.children id).reverse := by
  rw [lastChild?, ← List.head?_reverse]
  apply meets_of_moves
  intro before node after division
  have forward : tree.children id = after.reverse ++ node :: before.reverse := by
    rw [← List.reverse_reverse (tree.children id), division]
    simp
  rw [(frozen.siblings_of_division forward).2, List.getLast?_reverse]

/-- A link leads to a slot that exists, so the slots before it and those behind it
are parts of the slots of the parent. -/
theorem slot_lt_of_link? (frozen : tree.FrozenFrom builder) {id : Nat} {link : Link}
    (linked : tree.link? id = some link) :
    link.parent < tree.size ∧ link.slot < (tree.slots link.parent).size := by
  have held := (frozen.link?_eq_some_iff id link).mp linked
  have isParent : tree.parent? id = some link.parent := by rw [parent?, linked, Option.map_some]
  exact ⟨(lt_of_parent? isParent).2, (Array.getElem?_eq_some_iff.mp held).1⟩

end FrozenFrom

end Tree

/-- Moves between parents, children and siblings agree with the slots.  The
children of a node are the nodes whose parent it is.  Going right from the first
child meets all children in order, and going left from the last child meets them
in reverse order; so the moves to the right and to the left undo each other,
wherever slots are absent.  The root has neither parent nor siblings.  The slots
that a move searches lie inside those of the parent. -/
theorem navigation_agrees_with_slots {calls : List BuildCall} {tree : Tree}
    (frozen : (Builder.after calls).finish = .ok tree) :
    (∀ parent child, child ∈ tree.children parent ↔ tree.parent? child = some parent) ∧
    (∀ id, Meets tree.nextSibling? (tree.firstChild? id) (tree.children id) ∧
      Meets tree.prevSibling? (tree.lastChild? id) (tree.children id).reverse) ∧
    (∀ first second,
      tree.nextSibling? first = some second ↔ tree.prevSibling? second = some first) ∧
    (tree.parent? tree.root = none ∧ tree.nextSibling? tree.root = none ∧
      tree.prevSibling? tree.root = none) ∧
    ∀ id link, tree.link? id = some link →
      link.parent < tree.size ∧ link.slot ≤ (tree.slots link.parent).size ∧
        link.slot + 1 ≤ (tree.slots link.parent).size := by
  have arranged := Tree.frozenFrom_of_finish frozen
  refine ⟨?_, ?_, ?_, ?_, ?_⟩
  · intro parent child
    exact arranged.parent?_eq_some_iff.symm
  · intro id
    exact ⟨arranged.meets_children id, arranged.meets_children_reverse id⟩
  · intro first second
    rw [arranged.nextSibling?_eq_some_iff, arranged.prevSibling?_eq_some_iff]
  · refine ⟨arranged.parent?_root, ?_, ?_⟩
    · rw [Tree.nextSibling?, arranged.link?_root]
    · rw [Tree.prevSibling?, arranged.link?_root]
  · intro id link linked
    obtain ⟨parentInside, slotInside⟩ := arranged.slot_lt_of_link? linked
    exact ⟨parentInside, Nat.le_of_lt slotInside, slotInside⟩

theorem gappedBlock_navigated :
    ∃ tree, (Builder.after gappedBlock).finish = .ok tree ∧
      tree.slots 4 = #[none, some 0, none, some 1, none, none, some 2, some 3, none] ∧
      Meets tree.nextSibling? (some 0) [0, 1, 2, 3] ∧
      Meets tree.prevSibling? (some 3) [3, 2, 1, 0] ∧
      tree.nextSibling? 1 = some 2 ∧ tree.prevSibling? 2 = some 1 ∧
      tree.link? 3 = some ⟨4, 7⟩ ∧ 7 + 1 ≤ (tree.slots 4).size := by
  obtain ⟨tree, frozen, slots, next, linked⟩ : ∃ tree,
      (Builder.after gappedBlock).finish = .ok tree ∧
        tree.slots 4 = #[none, some 0, none, some 1, none, none, some 2, some 3, none] ∧
        tree.nextSibling? 1 = some 2 ∧ tree.link? 3 = some ⟨4, 7⟩ :=
    ⟨_, rfl, by decide +kernel⟩
  obtain ⟨-, meets, inverse, -, bounds⟩ := navigation_agrees_with_slots frozen
  obtain ⟨right, left⟩ := meets 4
  rw [Tree.firstChild?, Tree.children, slots] at right
  rw [Tree.lastChild?, Tree.children, slots] at left
  exact ⟨tree, frozen, slots, right, left, next, (inverse 1 2).mp next, linked,
    (bounds 3 _ linked).2.2⟩

end TreeLint
