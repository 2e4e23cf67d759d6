import TreeLint.Proofs.Subtrees

/-!
# The way down and the way up

Going down, the nodes of a subtree come from the slots; going up, the ancestors
of a node come from the table of links.  In a frozen tree both follow the same
relation between parents and children, so a node is met on the way down from
another one exactly if that one is met on the way up.
-/

namespace TreeLint

namespace Tree

/-! ## Going down -/

/-- The subtree of a node consists of all nodes that are reached through slots. -/
theorem mem_descendants_iff (tree : Tree) (id node : Nat) :
    node ∈ tree.descendants id ↔ Relation.ReflTransGen tree.IsChild id node := by
  induction id using Nat.strongRecOn with
  | ind id ih =>
      rw [descendants_eq, List.mem_cons, List.mem_flatMap, Relation.ReflTransGen.cases_head_iff]
      refine or_congr eq_comm ?_
      constructor
      · rintro ⟨child, isChild, below⟩
        exact ⟨child, isChild, (ih child (lt_of_mem_children isChild)).mp below⟩
      · rintro ⟨child, isChild, path⟩
        exact ⟨child, isChild, (ih child (lt_of_mem_children isChild)).mpr path⟩

theorem nodup_descendants {calls : List BuildCall} {tree : Tree}
    (frozen : (Builder.after calls).finish = .ok tree) {id : Nat} (inside : id < tree.size) :
    (tree.descendants id).Nodup := by
  obtain ⟨start, spans⟩ := exists_spans frozen inside
  exact spans.descendants_perm.nodup_iff.mpr List.nodup_range'

/-- The subtree of the root is the whole arena. -/
theorem descendants_root_perm {calls : List BuildCall} {tree : Tree}
    (frozen : (Builder.after calls).finish = .ok tree) :
    (tree.descendants tree.root).Perm (List.range tree.size) := by
  have spans := spans_root frozen
  have ends := spans.ends
  have last := (frozenFrom_of_finish frozen).root_succ_eq_size
  have whole : (tree.term tree.root).count = tree.size := by omega
  rw [List.range_eq_range', ← whole]
  exact spans.descendants_perm

/-! ## Going up -/

/-- A parent stands behind its children, so going up comes to an end. -/
@[elab_as_elim]
theorem upward_induction (tree : Tree) {motive : Nat → Prop}
    (step : ∀ id, (∀ parent, tree.parent? id = some parent → motive parent) → motive id)
    (id : Nat) : motive id := by
  induction distance : tree.size - id using Nat.strongRecOn generalizing id with
  | ind distance ih =>
      apply step
      intro parent found
      have ⟨behind, inside⟩ := lt_of_parent? found
      exact ih (tree.size - parent) (by omega) parent rfl

theorem pairwise_ancestors (tree : Tree) (id : Nat) :
    (id :: tree.ancestors id).Pairwise (· < ·) := by
  induction id using upward_induction tree with
  | step id ih =>
      rw [ancestors_eq]
      cases found : tree.parent? id with
      | none => exact List.pairwise_singleton _ _
      | some parent =>
          have increasing := ih parent found
          have behind := (lt_of_parent? found).1
          refine List.pairwise_cons.mpr ⟨?_, increasing⟩
          intro ancestor member
          rcases List.mem_cons.mp member with rfl | above
          · exact behind
          · exact Nat.lt_trans behind ((List.pairwise_cons.mp increasing).1 ancestor above)

namespace FrozenFrom

variable {tree : Tree} {builder : Builder}

/-- The links of a frozen tree are the slots seen from below. -/
theorem parent?_eq_some_iff (frozen : tree.FrozenFrom builder) {id parent : Nat} :
    tree.parent? id = some parent ↔ tree.IsChild parent id := by
  rw [parent?, Option.map_eq_some_iff]
  constructor
  · rintro ⟨link, linked, rfl⟩
    have held := (frozen.link?_eq_some_iff id link).mp linked
    exact mem_presentSlots.mpr (Array.mem_of_getElem? held)
  · intro isChild
    obtain ⟨slot, held⟩ := Array.mem_iff_getElem?.mp (mem_presentSlots.mp isChild)
    exact ⟨⟨parent, slot⟩, (frozen.link?_eq_some_iff id ⟨parent, slot⟩).mpr held, rfl⟩

theorem ancestors_of_mem_children (frozen : tree.FrozenFrom builder)
    {id child : Nat} (isChild : child ∈ tree.children id) :
    tree.ancestors child = id :: tree.ancestors id := by
  rw [ancestors_eq, frozen.parent?_eq_some_iff.mpr isChild]

theorem parent?_root (frozen : tree.FrozenFrom builder) : tree.parent? tree.root = none := by
  rw [parent?, frozen.link?_root]
  rfl

theorem ancestors_root (frozen : tree.FrozenFrom builder) :
    tree.ancestors tree.root = [] := by
  rw [ancestors_eq, frozen.parent?_root]

theorem exists_parent (frozen : tree.FrozenFrom builder) {id : Nat} (inside : id < tree.size)
    (notRoot : id ≠ tree.root) : ∃ parent, tree.parent? id = some parent := by
  obtain ⟨link, leads⟩ := frozen.exists_link inside notRoot
  exact ⟨link.parent, frozen.parent?_eq_some_iff.mpr (isChild_of_leadsFrom leads)⟩

/-- The ancestors of a node are the nodes from which it is reached through slots. -/
theorem mem_ancestors_iff (frozen : tree.FrozenFrom builder) (id node : Nat) :
    node ∈ tree.ancestors id ↔ Relation.TransGen tree.IsChild node id := by
  induction id using upward_induction tree with
  | step id ih =>
      rw [ancestors_eq, Relation.TransGen.tail'_iff]
      simp only [← frozen.parent?_eq_some_iff]
      cases found : tree.parent? id with
      | none => simp
      | some parent =>
          rw [List.mem_cons, ih parent found]
          constructor
          · intro above
            refine ⟨parent, ?_, rfl⟩
            rw [Relation.reflTransGen_iff_eq_or_transGen]
            exact above.imp_left Eq.symm
          · rintro ⟨other, path, same⟩
            rw [← Option.some.inj same, Relation.reflTransGen_iff_eq_or_transGen] at path
            exact path.imp_left Eq.symm

theorem getLast?_cons_ancestors (frozen : tree.FrozenFrom builder) {id : Nat}
    (inside : id < tree.size) : (id :: tree.ancestors id).getLast? = some tree.root := by
  induction id using upward_induction tree with
  | step id ih =>
      by_cases isRoot : id = tree.root
      · rw [isRoot, frozen.ancestors_root]
        rfl
      · obtain ⟨parent, found⟩ := frozen.exists_parent inside isRoot
        have later := ih parent found (lt_of_parent? found).2
        rw [ancestors_eq, found, List.getLast?_cons_cons]
        exact later

/-- Above every node but the root itself stands the root, at the end of the way up. -/
theorem getLast?_ancestors (frozen : tree.FrozenFrom builder) {id : Nat}
    (inside : id < tree.size) (notRoot : id ≠ tree.root) :
    (tree.ancestors id).getLast? = some tree.root := by
  obtain ⟨parent, found⟩ := frozen.exists_parent inside notRoot
  rw [ancestors_eq, found]
  exact frozen.getLast?_cons_ancestors (lt_of_parent? found).2

end FrozenFrom

end Tree

/-- Descendants and ancestors are dual.  The pre-order of a node is the node followed
by the pre-orders of its children, and it lists everything that is reached through
slots, each node once.  A node is a descendant of another one exactly if it is that
node or has it among its ancestors.  The ancestors follow the links until there is
no parent any more: their indices increase, and they end with the root.  From the
root, every index of the arena is listed once. -/
theorem descendants_dual_to_ancestors {calls : List BuildCall} {tree : Tree}
    (frozen : (Builder.after calls).finish = .ok tree) :
    (∀ id < tree.size,
      tree.descendants id = id :: (tree.children id).flatMap tree.descendants ∧
      (tree.descendants id).Nodup ∧
      ∀ node, node ∈ tree.descendants id ↔ Relation.ReflTransGen tree.IsChild id node) ∧
    (∀ id < tree.size, ∀ node < tree.size,
      node ∈ tree.descendants id ↔ node = id ∨ id ∈ tree.ancestors node) ∧
    (∀ node < tree.size,
      (tree.ancestors node =
        match tree.parent? node with
        | some parent => parent :: tree.ancestors parent
        | none => []) ∧
      (node :: tree.ancestors node).Pairwise (· < ·) ∧ (tree.ancestors node).Nodup ∧
      (node ≠ tree.root → (tree.ancestors node).getLast? = some tree.root)) ∧
    tree.ancestors tree.root = [] ∧
    (tree.descendants tree.root).Perm (List.range tree.size) := by
  have arranged := Tree.frozenFrom_of_finish frozen
  refine ⟨?_, ?_, ?_, arranged.ancestors_root, Tree.descendants_root_perm frozen⟩
  · intro id inside
    exact ⟨tree.descendants_eq id, Tree.nodup_descendants frozen inside,
      tree.mem_descendants_iff id⟩
  · intro id _ node _
    rw [tree.mem_descendants_iff, arranged.mem_ancestors_iff,
      Relation.reflTransGen_iff_eq_or_transGen]
  · intro node inside
    have increasing := tree.pairwise_ancestors node
    refine ⟨tree.ancestors_eq node, increasing, ?_, arranged.getLast?_ancestors inside⟩
    exact (List.pairwise_cons.mp increasing).2.imp Nat.ne_of_lt

theorem deadEcho_dual :
    ∃ tree, (Builder.after (deadEcho 2)).finish = .ok tree ∧ tree.size = 8 ∧
      tree.ancestors 2 = [3, 6, 7] ∧ 2 ∈ tree.descendants 6 ∧ 5 ∉ tree.ancestors 2 ∧
      2 ∉ tree.descendants 5 ∧ (tree.descendants tree.root).Perm (List.range 8) := by
  obtain ⟨tree, frozen, size, above⟩ : ∃ tree, (Builder.after (deadEcho 2)).finish = .ok tree ∧
      tree.size = 8 ∧ tree.ancestors 2 = [3, 6, 7] := ⟨_, rfl, by decide +kernel⟩
  obtain ⟨-, dual, -, -, whole⟩ := descendants_dual_to_ancestors frozen
  have notAbove : 5 ∉ tree.ancestors 2 := by simp [above]
  refine ⟨tree, frozen, size, above, ?_, notAbove, ?_, size ▸ whole⟩
  · exact (dual 6 (by omega) 2 (by omega)).mpr (.inr (by simp [above]))
  · intro below
    exact notAbove (((dual 5 (by omega) 2 (by omega)).mp below).resolve_left (by decide))

end TreeLint
