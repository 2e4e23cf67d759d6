import TreeLint.Proofs.Siblings

/-!
# The order of tokens

The tokens of a subtree are gathered on the way down, so they come in the order
of the slots.  Nodes are numbered as they are completed, and everything below a
child is completed before anything below a later child is started.  The order of
the slots is therefore the order of the indices.  The two searches for a token,
from the left and from the right, stop at the two ends of this order.
-/

namespace TreeLint

namespace Tree

theorem id_of_token? {tree : Tree} {id : Nat} {token : Token}
    (isToken : tree.token? id = some token) : token.id = id := by
  unfold token? at isToken
  split at isToken
  · cases isToken
    rfl
  · cases isToken

/-- The tokens of a subtree are the leaves that are reached through slots. -/
theorem mem_tokens_iff (tree : Tree) (id : Nat) (token : Token) :
    token ∈ tree.tokens id ↔
      Relation.ReflTransGen tree.IsChild id token.id ∧ tree.token? token.id = some token := by
  rw [tokens, List.mem_filterMap]
  constructor
  · rintro ⟨node, below, isToken⟩
    obtain rfl := id_of_token? isToken
    exact ⟨(tree.mem_descendants_iff id token.id).mp below, isToken⟩
  · rintro ⟨path, isToken⟩
    exact ⟨token.id, (tree.mem_descendants_iff id token.id).mpr path, isToken⟩

theorem tokens_eq_nil_iff (tree : Tree) (id : Nat) :
    tree.tokens id = [] ↔
      ∀ node, Relation.ReflTransGen tree.IsChild id node → tree.isToken node = false := by
  rw [tokens, List.filterMap_eq_nil_iff]
  constructor
  · intro noToken node path
    have absent := noToken node ((tree.mem_descendants_iff id node).mpr path)
    rw [isToken, absent, Option.isSome_none]
  · intro noToken node below
    have absent := noToken node ((tree.mem_descendants_iff id node).mp below)
    rwa [isToken, Option.isSome_eq_false_iff, Option.isNone_iff_eq_none] at absent

theorem le_of_reflTransGen_isChild {tree : Tree} {above below : Nat}
    (path : Relation.ReflTransGen tree.IsChild above below) : below ≤ above := by
  rcases Relation.reflTransGen_iff_eq_or_transGen.mp path with rfl | proper
  · exact Nat.le_refl _
  · exact Nat.le_of_lt (lt_of_transGen_isChild proper)

/-- A node does not stand below one of its siblings. -/
theorem FrozenFrom.not_below_sibling {tree : Tree} {builder : Builder}
    (frozen : tree.FrozenFrom builder) {parent first second : Nat}
    (isFirst : tree.IsChild parent first) (isSecond : tree.IsChild parent second) :
    ¬ Relation.TransGen tree.IsChild second first := by
  intro path
  obtain ⟨other, above, isChild⟩ := Relation.TransGen.tail'_iff.mp path
  have sameParent : tree.parent? first = some other := frozen.parent?_eq_some_iff.mpr isChild
  rw [frozen.parent?_eq_some_iff.mpr isFirst] at sameParent
  cases sameParent
  have parentFirst := le_of_reflTransGen_isChild above
  have childFirst := lt_of_mem_children isSecond
  omega

/-- Everything below a later sibling stands behind the earlier one. -/
theorem lt_of_below_later_sibling {calls : List BuildCall} {tree : Tree}
    (frozen : (Builder.after calls).finish = .ok tree) {parent first second node : Nat}
    (isFirst : tree.IsChild parent first) (isSecond : tree.IsChild parent second)
    (earlier : first < second) (below : Relation.ReflTransGen tree.IsChild second node) :
    first < node := by
  have arranged := frozenFrom_of_finish frozen
  have inside := lt_of_parent? (arranged.parent?_eq_some_iff.mpr isSecond)
  obtain ⟨start, spans⟩ := exists_spans frozen (Nat.lt_trans inside.1 inside.2)
  have consecutive : ∀ id, id ∈ tree.descendants second ↔ start ≤ id ∧ id < second + 1 := by
    intro id
    rw [spans.descendants_perm.mem_iff, List.mem_range'_1, spans.ends]
  -- the indices below the later sibling end with it, and the earlier one is none of them
  by_contra notBehind
  have startFirst := (consecutive node).mp ((tree.mem_descendants_iff second node).mpr below)
  have firstBelow : first ∈ tree.descendants second := (consecutive first).mpr (by omega)
  rw [mem_descendants_iff, Relation.reflTransGen_iff_eq_or_transGen] at firstBelow
  rcases firstBelow with same | path
  · omega
  · exact arranged.not_below_sibling isFirst isSecond path

theorem pairwise_tokens {calls : List BuildCall} {tree : Tree}
    (frozen : (Builder.after calls).finish = .ok tree) (id : Nat) :
    (tree.tokens id).Pairwise fun first second => first.id < second.id := by
  induction id using Nat.strongRecOn with
  | ind id ih =>
      cases isToken : tree.token? id with
      | some token =>
          rw [tokens_of_token isToken]
          exact List.pairwise_singleton _ _
      | none =>
          rw [tokens_of_compound isToken, List.pairwise_flatMap]
          constructor
          · intro child isChild
            exact ih child (lt_of_mem_children isChild)
          · apply ((frozenFrom_of_finish frozen).pairwise_children id).imp_of_mem
            intro first second isFirst isSecond earlier token inFirst other inSecond
            have upToFirst := le_of_reflTransGen_isChild ((tree.mem_tokens_iff ..).mp inFirst).1
            have behindFirst := lt_of_below_later_sibling frozen isFirst isSecond earlier
              ((tree.mem_tokens_iff ..).mp inSecond).1
            omega

end Tree

/-- The tokens of a node are the leaves of its subtree, each once, with increasing
indices, and those of a compound node are the tokens of its children one after the
other.  The search from the left answers with the first of them, the search from
the right with the last, and both find nothing exactly if the subtree has no token.
The position of a node is that of its first token. -/
theorem tokens_are_leaves_in_order {calls : List BuildCall} {tree : Tree}
    (frozen : (Builder.after calls).finish = .ok tree) (id : Nat) :
    (∀ token, token ∈ tree.tokens id ↔
      Relation.ReflTransGen tree.IsChild id token.id ∧ tree.token? token.id = some token) ∧
    ((tree.tokens id).Pairwise fun first second => first.id < second.id) ∧
    (tree.isToken id = false → tree.tokens id = (tree.children id).flatMap tree.tokens) ∧
    tree.firstToken? id = (tree.tokens id).head? ∧
    tree.lastToken? id = (tree.tokens id).getLast? ∧
    (tree.firstToken? id = none ↔
      ∀ node, Relation.ReflTransGen tree.IsChild id node → tree.isToken node = false) ∧
    (tree.lastToken? id = none ↔
      ∀ node, Relation.ReflTransGen tree.IsChild id node → tree.isToken node = false) ∧
    tree.position? id = (tree.tokens id).head?.map Token.position := by
  have first := tree.firstToken?_eq id
  have last := tree.lastToken?_eq id
  refine ⟨tree.mem_tokens_iff id, Tree.pairwise_tokens frozen id, ?_, first, last, ?_, ?_, ?_⟩
  · intro isCompound
    apply Tree.tokens_of_compound
    rwa [Tree.isToken, Option.isSome_eq_false_iff, Option.isNone_iff_eq_none] at isCompound
  · rw [first, List.head?_eq_none_iff, tree.tokens_eq_nil_iff]
  · rw [last, List.getLast?_eq_none_iff, tree.tokens_eq_nil_iff]
  · rw [Tree.position?, first]

theorem gappedBlock_tokens :
    ∃ tree, (Builder.after gappedBlock).finish = .ok tree ∧
      tree.children 4 = [0, 1, 2, 3] ∧ tree.tokens 0 = [] ∧ tree.tokens 3 = [] ∧
      tree.firstToken? 4 = some ⟨1, .lBrace, "\x7b", ⟨1, 0⟩⟩ ∧
      tree.lastToken? 4 = some ⟨2, .rBrace, "\x7d", ⟨1, 2⟩⟩ ∧
      tree.position? 4 = some ⟨1, 0⟩ := by
  obtain ⟨tree, frozen, children, tokens, noFirst, noLast⟩ : ∃ tree,
      (Builder.after gappedBlock).finish = .ok tree ∧ tree.children 4 = [0, 1, 2, 3] ∧
        tree.tokens 4 =
          [⟨1, .lBrace, "\x7b", ⟨1, 0⟩⟩, ⟨2, .rBrace, "\x7d", ⟨1, 2⟩⟩] ∧
        tree.tokens 0 = [] ∧ tree.tokens 3 = [] := ⟨_, rfl, by decide +kernel⟩
  obtain ⟨-, -, -, first, last, -, -, position⟩ := tokens_are_leaves_in_order frozen 4
  rw [tokens] at first last position
  exact ⟨tree, frozen, children, noFirst, noLast, first, last, position⟩

end TreeLint
