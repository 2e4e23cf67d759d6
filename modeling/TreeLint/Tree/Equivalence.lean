import TreeLint.Tree.Traversal

/-!
# Equivalence of subtrees

Two subtrees have the same tokens if their tops are of one kind and the texts
below them are the same; the shape in between does not matter.  They are
structurally equal if kinds, slots (absent ones included) and texts agree at
every level.  Positions never matter, and a difference is an answer rather
than an error.
-/

namespace TreeLint

namespace Tree

/-- Same kind at the top and the same token texts in the same order. -/
def sameTokens (left right : Tree) (a b : Nat) : Bool :=
  left.kind a == right.kind b &&
    (left.tokens a).map Token.text == (right.tokens b).map Token.text

def leftNodes (pending : List (Option Nat × Option Nat)) : List Nat :=
  pending.filterMap Prod.fst

theorem stackWeight_leftNodes_zip_le (tree : Tree) (slots : List (Option Nat))
    (others : List (Option Nat)) :
    tree.stackWeight (leftNodes (slots.zip others)) ≤
      tree.stackWeight (slots.filterMap fun slot => slot) := by
  induction slots generalizing others with
  | nil => simp [leftNodes]
  | cons slot rest inductionHypothesis =>
    cases others with
    | nil => simp [leftNodes]
    | cons other others =>
      have bound := inductionHypothesis others
      unfold leftNodes at bound ⊢
      cases slot with
      | none => simpa using bound
      | some id =>
        simp only [List.zip_cons_cons, List.filterMap_cons, stackWeight_cons]
        omega

/-- Compares the pending pairs in order and stops at the first difference.
`shared` says that both sides are one and the same tree, in which a node needs
no comparison with itself. -/
def equalFrom (shared : Bool) (left right : Tree)
    (pending : List (Option Nat × Option Nat)) : Bool :=
  match pending with
  | [] => true
  | (none, none) :: rest => equalFrom shared left right rest
  | (some a, some b) :: rest =>
    if shared && a == b then equalFrom shared left right rest
    else if left.kind a != right.kind b then false
    else
      match left.token? a, right.token? b with
      | some first, some second =>
        if first.text != second.text then false else equalFrom shared left right rest
      | none, none =>
        if (left.slots a).size != (right.slots b).size then false
        else
          equalFrom shared left right
            ((left.slots a).toList.zip (right.slots b).toList ++ rest)
      | _, _ => false
  | _ :: _ => false
termination_by (left.stackWeight (leftNodes pending), pending.length)
decreasing_by
  · simp [leftNodes, Prod.lex_def]
  · have unfolded := left.weight_eq a
    simp only [leftNodes, List.filterMap_cons, stackWeight_cons, Prod.lex_def]
    omega
  · have unfolded := left.weight_eq a
    simp only [leftNodes, List.filterMap_cons, stackWeight_cons, Prod.lex_def]
    omega
  · have unfolded := left.weight_eq a
    have bound := stackWeight_leftNodes_zip_le left (left.slots a).toList
      (right.slots b).toList
    unfold leftNodes at bound
    unfold children at unfolded
    simp only [leftNodes, List.filterMap_append, List.filterMap_cons, stackWeight_append,
      stackWeight_cons, Prod.lex_def]
    omega

/-- Structural equality of subtrees of two trees; `none` is an absent subtree. -/
def structurallyEqual (left right : Tree) (a b : Option Nat) : Bool :=
  equalFrom false left right [(a, b)]

def structurallyEqualWithin (tree : Tree) (a b : Option Nat) : Bool :=
  equalFrom true tree tree [(a, b)]

end Tree

end TreeLint
