import TreeLint.Proofs.LinkTable
import TreeLint.Tree.Traversal

/-!
# Traversals as recursions over the tree

The traversals of a tree work off a stack of nodes.  What they compute is a
recursion: a node comes before everything below it, and the tokens below a
compound node are those of its children in order.  The two searches, from the
left and from the right, end at the two ends of this list of tokens.  The way
up follows the links, and the number of nodes bounds its length.
-/

namespace TreeLint

namespace Tree

/-! ## Pre-order -/

theorem preorderFrom_append (tree : Tree) (first second : List Nat) (visited : Array Nat) :
    tree.preorderFrom (first ++ second) visited =
      tree.preorderFrom second (tree.preorderFrom first visited) := by
  fun_induction preorderFrom tree first visited with
  | case1 visited => rfl
  | case2 visited id rest ih =>
      rw [List.cons_append, preorderFrom, ← List.append_assoc]
      exact ih

theorem preorderFrom_visited (tree : Tree) (stack : List Nat) (earlier visited : Array Nat) :
    tree.preorderFrom stack (earlier ++ visited) =
      earlier ++ tree.preorderFrom stack visited := by
  fun_induction preorderFrom tree stack visited with
  | case1 visited => rw [preorderFrom]
  | case2 visited id rest ih =>
      rw [preorderFrom, ← Array.append_push]
      exact ih

theorem toList_preorderFrom (tree : Tree) (stack : List Nat) (visited : Array Nat) :
    (tree.preorderFrom stack visited).toList =
      visited.toList ++ stack.flatMap tree.descendants := by
  induction stack generalizing visited with
  | nil => simp [preorderFrom]
  | cons id rest ih =>
      have front := tree.preorderFrom_visited [id] visited #[]
      rw [Array.append_empty] at front
      rw [← List.singleton_append, preorderFrom_append, ih, front, Array.toList_append,
        List.flatMap_append, List.flatMap_singleton, List.append_assoc]
      rfl

/-- A node comes first, then everything below each of its children in turn. -/
theorem descendants_eq (tree : Tree) (id : Nat) :
    tree.descendants id = id :: (tree.children id).flatMap tree.descendants := by
  rw [descendants, preorderFrom, toList_preorderFrom, List.append_nil]
  rfl

/-! ## The way up -/

/-- A parent stands behind the node. -/
theorem lt_of_parent? {tree : Tree} {id parent : Nat} (found : tree.parent? id = some parent) :
    id < parent ∧ parent < tree.size := by
  obtain ⟨link, linked, rfl⟩ := Option.map_eq_some_iff.mp found
  have entry : (linksOf tree.nodes)[id]? = some (some link) := by
    rw [link?] at linked
    rw [← tree.linked]
    split at linked
    · rename_i entry present
      rw [present, linked]
    · cases linked
  obtain ⟨data, isNode, isSlot⟩ := linksOf_sound entry
  exact ⟨tree.childrenFirst link.parent data id isNode (Array.mem_of_getElem? isSlot),
    (Array.getElem?_eq_some_iff.mp isNode).1⟩

theorem ancestorsFrom_succ {tree : Tree} {id fuel : Nat} (enough : tree.size ≤ id + fuel) :
    tree.ancestorsFrom id (fuel + 1) = tree.ancestorsFrom id fuel := by
  induction fuel generalizing id with
  | zero =>
      rw [ancestorsFrom, ancestorsFrom]
      cases found : tree.parent? id with
      | none => rfl
      | some parent =>
          have ⟨behind, inside⟩ := lt_of_parent? found
          omega
  | succ fuel ih =>
      rw [ancestorsFrom, ancestorsFrom]
      cases found : tree.parent? id with
      | none => rfl
      | some parent =>
          have ⟨behind, inside⟩ := lt_of_parent? found
          exact congrArg (parent :: ·) (ih (by omega))

/-- The parent comes first, then the ancestors of the parent. -/
theorem ancestors_eq (tree : Tree) (id : Nat) :
    tree.ancestors id =
      match tree.parent? id with
      | some parent => parent :: tree.ancestors parent
      | none => [] := by
  rw [ancestors, ← ancestorsFrom_succ (Nat.le_add_left _ _), ancestorsFrom]
  rfl

/-! ## Tokens -/

theorem children_of_token {tree : Tree} {id : Nat} {token : Token}
    (isToken : tree.token? id = some token) : tree.children id = [] := by
  rw [children, slots_of_token isToken]
  rfl

theorem tokens_of_token {tree : Tree} {id : Nat} {token : Token}
    (isToken : tree.token? id = some token) : tree.tokens id = [token] := by
  rw [tokens, descendants_eq, children_of_token isToken]
  simp [isToken]

theorem tokens_of_compound {tree : Tree} {id : Nat} (noToken : tree.token? id = none) :
    tree.tokens id = (tree.children id).flatMap tree.tokens := by
  rw [tokens, descendants_eq, List.filterMap_cons_none noToken, List.filterMap_flatMap]
  rfl

/-- The search from the left ends at the first of all tokens below the stack. -/
theorem firstTokenFrom_eq (tree : Tree) (stack : List Nat) :
    tree.firstTokenFrom stack = (stack.flatMap tree.tokens).head? := by
  fun_induction firstTokenFrom tree stack with
  | case1 => rfl
  | case2 id rest token isToken =>
      rw [List.flatMap_cons, tokens_of_token isToken]
      rfl
  | case3 id rest noToken ih =>
      rw [ih, List.flatMap_append, List.flatMap_cons, tokens_of_compound noToken]

/-- The search from the right ends at the last of all tokens below the stack,
which is held with its last node first. -/
theorem lastTokenFrom_eq (tree : Tree) (stack : List Nat) :
    tree.lastTokenFrom stack = (stack.reverse.flatMap tree.tokens).getLast? := by
  fun_induction lastTokenFrom tree stack with
  | case1 => rfl
  | case2 id rest token isToken =>
      rw [List.reverse_cons, List.flatMap_append, List.flatMap_singleton,
        tokens_of_token isToken, List.getLast?_concat]
  | case3 id rest noToken ih =>
      rw [ih, List.reverse_append, List.reverse_reverse, List.reverse_cons,
        List.flatMap_append, List.flatMap_append, List.flatMap_singleton,
        tokens_of_compound noToken]

theorem firstToken?_eq (tree : Tree) (id : Nat) :
    tree.firstToken? id = (tree.tokens id).head? := by
  rw [firstToken?, firstTokenFrom_eq, List.flatMap_singleton]

theorem lastToken?_eq (tree : Tree) (id : Nat) :
    tree.lastToken? id = (tree.tokens id).getLast? := by
  rw [lastToken?, lastTokenFrom_eq, List.reverse_singleton, List.flatMap_singleton]

end Tree

end TreeLint
