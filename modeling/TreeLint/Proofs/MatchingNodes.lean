import Mathlib.Data.List.Forall2
import TreeLint.Proofs.BuilderRuns
import TreeLint.Proofs.Layout
import TreeLint.Tree.Render

/-!
# Structurally equal subtrees match node by node

Structural equality compares slots pair by pair, while the looser comparison looks
at the texts of the tokens and forgets the shape.  Both descend through the same
nodes: in pre-order the nodes of two structurally equal subtrees stand side by side,
each pair again structurally equal.  So the tokens stand side by side too, and their
texts agree.
-/

namespace TreeLint

namespace Tree

variable {left right : Tree}

/-- Two nodes, perhaps of different trees, look the same up to positions. -/
def LookAlike (left right : Tree) (first second : Nat) : Prop :=
  left.outline (some first) = right.outline (some second)

theorem LookAlike.text_eq {first second : Nat} (alike : LookAlike left right first second) :
    (left.token? first).map Token.text = (right.token? second).map Token.text :=
  ((outline_eq_iff left right first second).mp alike).2.2

/-- Absent slots stand in the same places, so the children stand side by side. -/
theorem LookAlike.children {first second : Nat} (alike : LookAlike left right first second) :
    List.Forall₂ (LookAlike left right) (left.children first) (right.children second) := by
  have slots := ((outline_eq_iff left right first second).mp alike).2.1
  rw [← List.forall₂_eq_eq_eq, List.forall₂_map_left_iff, List.forall₂_map_right_iff] at slots
  refine List.rel_filterMap ?_ slots
  intro slot other equal
  cases slot with
  | none =>
      cases other with
      | none => exact Option.Rel.none
      | some node => simp [outline_some] at equal
  | some node =>
      cases other with
      | none => simp [outline_some] at equal
      | some node => exact Option.Rel.some equal

/-- In pre-order the nodes of subtrees that look the same stand side by side. -/
theorem LookAlike.descendants {first second : Nat} (alike : LookAlike left right first second) :
    List.Forall₂ (LookAlike left right) (left.descendants first)
      (right.descendants second) := by
  induction first using Nat.strongRecOn generalizing second with
  | ind first ih =>
      rw [descendants_eq, descendants_eq]
      refine List.Forall₂.cons alike ?_
      have paired : List.Forall₂
          (fun child other => child < first ∧ LookAlike left right child other)
          (left.children first) (right.children second) :=
        (List.forall₂_and_left _ _).mpr ⟨fun child => lt_of_mem_children, alike.children⟩
      refine List.rel_flatMap paired ?_
      rintro child other ⟨smaller, childAlike⟩
      exact ih child smaller childAlike

theorem map_text_tokens (tree : Tree) (id : Nat) :
    (tree.tokens id).map Token.text =
      ((tree.descendants id).map fun node => (tree.token? node).map Token.text).filterMap
        fun text => text := by
  rw [tokens, List.map_filterMap, List.filterMap_map]
  rfl

theorem LookAlike.map_text_tokens_eq {first second : Nat}
    (alike : LookAlike left right first second) :
    (left.tokens first).map Token.text = (right.tokens second).map Token.text := by
  have texts : (left.descendants first).map (fun node => (left.token? node).map Token.text) =
      (right.descendants second).map fun node => (right.token? node).map Token.text := by
    rw [← List.forall₂_eq_eq_eq, List.forall₂_map_left_iff, List.forall₂_map_right_iff]
    exact alike.descendants.imp fun _ _ => text_eq
  rw [map_text_tokens, map_text_tokens, texts]

/-- A token looks like another one if kind and text are the same. -/
theorem lookAlike_tokens_iff {first second : Nat} (isToken : left.isToken first = true)
    (isOther : right.isToken second = true) :
    LookAlike left right first second ↔ left.sameTokens right first second = true := by
  obtain ⟨token, found⟩ := Option.isSome_iff_exists.mp isToken
  obtain ⟨other, foundOther⟩ := Option.isSome_iff_exists.mp isOther
  rw [LookAlike, outline_eq_iff, sameTokens, tokens_of_token found, tokens_of_token foundOther,
    slots_of_token found, slots_of_token foundOther, found, foundOther]
  simp

/-- Two subtrees agree in their tokens and, node by node in pre-order, in everything
that structural equality looks at. -/
structure AgreeBelow (left right : Tree) (first second : Nat) : Prop where
  sameTokens : left.sameTokens right first second = true
  sameText : left.concatTokens first = right.concatTokens second
  sameSize : (left.descendants first).length = (right.descendants second).length
  sameTokenCount : (left.tokens first).length = (right.tokens second).length
  nodes : ∀ (index node other : Nat), (left.descendants first)[index]? = some node →
    (right.descendants second)[index]? = some other →
      left.structurallyEqual right (some node) (some other) = true

theorem LookAlike.agreeBelow {first second : Nat} (alike : LookAlike left right first second) :
    AgreeBelow left right first second where
  sameTokens := by
    have kinds := ((outline_eq_iff left right first second).mp alike).1
    rw [Tree.sameTokens, kinds, alike.map_text_tokens_eq, beq_self_eq_true, beq_self_eq_true]
    rfl
  sameText := by rw [concatTokens, concatTokens, alike.map_text_tokens_eq]
  sameSize := alike.descendants.length_eq
  sameTokenCount := by simpa using congrArg List.length alike.map_text_tokens_eq
  nodes index node other isNode isOther := by
    rw [structurallyEqual_iff_outline]
    obtain ⟨inside, rfl⟩ := List.getElem?_eq_some_iff.mp isNode
    obtain ⟨otherInside, rfl⟩ := List.getElem?_eq_some_iff.mp isOther
    exact alike.descendants.get inside otherInside

end Tree

/-- Structurally equal subtrees have the same tokens, the same text and equally many nodes
and tokens, and their nodes are structurally equal one by one in pre-order; for nodes of
one tree, which are compared with a shortcut, the answers are the same.  Between two
tokens both comparisons agree. -/
theorem structural_equality_reaches_every_node :
    (∀ (left right : Tree) (first second : Nat),
      left.structurallyEqual right (some first) (some second) = true →
        left.AgreeBelow right first second) ∧
    (∀ (tree : Tree) (first second : Option Nat),
      tree.structurallyEqualWithin first second = tree.structurallyEqual tree first second) ∧
    ∀ (left right : Tree) (first second : Nat), left.isToken first = true →
      right.isToken second = true →
        (left.sameTokens right first second = true ↔
          left.structurallyEqual right (some first) (some second) = true) := by
  refine ⟨?_, ?_, ?_⟩
  · intro left right first second equal
    exact Tree.LookAlike.agreeBelow
      ((Tree.structurallyEqual_iff_outline left right (some first) (some second)).mp equal)
  · intro tree first second
    rw [Bool.eq_iff_iff, Tree.structurallyEqualWithin_iff_outline,
      Tree.structurallyEqual_iff_outline]
  · intro left right first second isToken isOther
    rw [← Tree.lookAlike_tokens_iff isToken isOther, Tree.structurallyEqual_iff_outline]
    rfl

theorem deadEcho_agrees_below :
    ∃ left right, (Builder.after (deadEcho 2)).finish = .ok left ∧
      (Builder.after (deadEcho 9)).finish = .ok right ∧
      left.structurallyEqual right (some 6) (some 6) = true ∧
      left.concatTokens 6 = right.concatTokens 6 ∧
      left.structurallyEqual right (some 2) (some 2) = true ∧
      left.isToken 1 = true ∧ right.isToken 1 = true ∧
      (left.sameTokens right 1 1 = true ↔
        left.structurallyEqual right (some 1) (some 1) = true) := by
  obtain ⟨left, right, frozen, otherFrozen, equal, isNode, isOther, isToken, isOtherToken⟩ :
      ∃ left right, (Builder.after (deadEcho 2)).finish = .ok left ∧
        (Builder.after (deadEcho 9)).finish = .ok right ∧
        left.structurallyEqual right (some 6) (some 6) = true ∧
        (left.descendants 6)[2]? = some 2 ∧ (right.descendants 6)[2]? = some 2 ∧
        left.isToken 1 = true ∧ right.isToken 1 = true := by
    refine ⟨_, _, rfl, rfl, ?_, by decide +kernel⟩
    rw [Tree.structurallyEqual_iff_outline]
    apply Tree.Relaid.outline_eq
    exact ⟨by decide +kernel, rfl⟩
  obtain ⟨agree, -, tokens⟩ := structural_equality_reaches_every_node
  have below := agree left right 6 6 equal
  exact ⟨left, right, frozen, otherFrozen, equal, below.sameText,
    below.nodes 2 2 2 isNode isOther, isToken, isOtherToken,
    tokens left right 1 1 isToken isOtherToken⟩

end TreeLint
