import Mathlib.Data.List.Forall2
import TreeLint.Proofs.Terms
import TreeLint.Tree.Equivalence

/-!
# Structural equality is equality without positions

The comparison of two subtrees works off a list of pending pairs and stops at
the first difference.  What it decides is whether both subtrees are captured as
the same raw tree once every line and column is dropped.  It follows that the
comparison is an equivalence, also between nodes of different trees, and that
passing over a node compared with itself does not change an answer.
-/

namespace TreeLint

namespace RawNode

/-- The raw tree without any line or column. -/
def unplaced (raw : RawNode) : RawNode :=
  raw.keepPlaces fun _ => false

theorem unplaced_mk (kind : Kind) (children : List (Option RawNode)) (text : Option String)
    (line column : Option UInt32) :
    (RawNode.mk kind children text line column).unplaced =
      .mk kind (children.map (Option.map unplaced)) text none none := by
  rw [unplaced, keepPlaces, keepSlotPlaces_eq_map]
  rfl

end RawNode

namespace Tree

/-- What the comparison looks at: the captured subtree without positions. -/
def outline (tree : Tree) (slot : Option Nat) : Option RawNode :=
  slot.map fun id => (tree.capture id).unplaced

@[simp]
theorem outline_none (tree : Tree) : tree.outline none = none := rfl

/-- The outline of a node consists of its kind, the outlines in its slots and,
for a token, the text. -/
theorem outline_some (tree : Tree) (id : Nat) :
    tree.outline (some id) =
      some (.mk (tree.kind id) ((tree.slots id).toList.map tree.outline)
        ((tree.token? id).map Token.text) none none) := by
  rw [outline, Option.map_some]
  cases isToken : tree.token? id with
  | some token =>
      rw [capture_of_token isToken, kind_of_token isToken, slots_of_token isToken]
      rfl
  | none =>
      rw [capture_of_compound isToken, RawNode.node, RawNode.unplaced_mk, List.map_map]
      congr 2
      refine List.map_congr_left ?_
      intro slot _
      cases slot <;> rfl

theorem outline_eq_iff (left right : Tree) (a b : Nat) :
    left.outline (some a) = right.outline (some b) ↔
      left.kind a = right.kind b ∧
        (left.slots a).toList.map left.outline = (right.slots b).toList.map right.outline ∧
        (left.token? a).map Token.text = (right.token? b).map Token.text := by
  rw [outline_some, outline_some]
  simp only [Option.some.injEq, RawNode.mk.injEq, and_true]

/-- Two lists of slots have the same outlines if they are equally long and each
pair of slots has. -/
theorem map_outline_eq_iff {left right : Tree} {slots others : List (Option Nat)}
    (sameLength : slots.length = others.length) :
    slots.map left.outline = others.map right.outline ↔
      ∀ pair ∈ slots.zip others, left.outline pair.1 = right.outline pair.2 := by
  rw [← List.forall₂_eq_eq_eq, List.forall₂_map_left_iff, List.forall₂_map_right_iff,
    List.forall₂_iff_zip]
  simp [sameLength]

/-- Working off the pending pairs answers whether each of them has equal
outlines. -/
theorem equalFrom_iff {shared : Bool} {left right : Tree} (same : shared = true → left = right)
    (pending : List (Option Nat × Option Nat)) :
    equalFrom shared left right pending = true ↔
      ∀ pair ∈ pending, left.outline pair.1 = right.outline pair.2 := by
  -- A pair in front is either settled by the equation for outlines or replaced
  -- by the pairs of its slots.
  fun_induction equalFrom shared left right pending with
  | case1 => simp
  | case2 rest ih => rw [ih, List.forall_mem_cons, outline_none, outline_none, eq_self, true_and]
  | case3 a b rest identical ih =>
      simp only [Bool.and_eq_true, beq_iff_eq] at identical
      rw [ih, List.forall_mem_cons, same identical.1, identical.2, eq_self, true_and]
  | case4 a b rest _ otherKind =>
      simp only [bne_iff_ne] at otherKind
      rw [List.forall_mem_cons, outline_eq_iff]
      simp [otherKind]
  | case5 a b rest _ _ first second isSecond isFirst otherText =>
      simp only [bne_iff_ne] at otherText
      rw [List.forall_mem_cons, outline_eq_iff, isFirst, isSecond]
      simp [otherText]
  | case6 a b rest _ sameKind first second isSecond isFirst sameText ih =>
      simp only [bne_iff_ne, ne_eq, not_not] at sameKind sameText
      rw [ih, List.forall_mem_cons, outline_eq_iff, slots_of_token isFirst,
        slots_of_token isSecond, isFirst, isSecond]
      simp [sameKind, sameText]
  | case7 a b rest _ _ noSecond noFirst otherSize =>
      simp only [bne_iff_ne] at otherSize
      rw [List.forall_mem_cons, outline_eq_iff]
      have different : (left.slots a).toList.map left.outline ≠
          (right.slots b).toList.map right.outline := by
        intro equal
        apply otherSize
        simpa using congrArg List.length equal
      simp [different]
  | case8 a b rest _ sameKind noSecond noFirst sameSize ih =>
      simp only [bne_iff_ne, ne_eq, not_not] at sameKind sameSize
      rw [ih, List.forall_mem_append, List.forall_mem_cons, outline_eq_iff,
        map_outline_eq_iff (by simpa using sameSize), noFirst, noSecond]
      simp [sameKind]
  | case9 a b rest _ _ notBoth notNeither =>
      rw [List.forall_mem_cons, outline_eq_iff]
      cases isFirst : left.token? a <;> cases isSecond : right.token? b
      · exact (notNeither isFirst isSecond).elim
      · simp
      · simp
      · exact (notBoth _ _ isFirst isSecond).elim
  | case10 pair rest notAbsent notPresent =>
      obtain ⟨a, b⟩ := pair
      rw [List.forall_mem_cons]
      cases a <;> cases b
      · exact (notAbsent rfl).elim
      · simp [outline_some]
      · simp [outline_some]
      · exact (notPresent _ _ rfl).elim

theorem structurallyEqual_iff_outline (left right : Tree) (a b : Option Nat) :
    left.structurallyEqual right a b = true ↔ left.outline a = right.outline b := by
  rw [structurallyEqual, equalFrom_iff (by simp)]
  simp

theorem structurallyEqualWithin_iff_outline (tree : Tree) (a b : Option Nat) :
    tree.structurallyEqualWithin a b = true ↔ tree.outline a = tree.outline b := by
  rw [structurallyEqualWithin, equalFrom_iff (fun _ => rfl)]
  simp

theorem outline_eq_outline_iff (left right : Tree) (a b : Option Nat) :
    left.outline a = right.outline b ↔
      (a = none ∧ b = none) ∨
      ∃ first second, a = some first ∧ b = some second ∧
        (left.capture first).unplaced = (right.capture second).unplaced := by
  cases a <;> cases b <;> simp [outline]

end Tree

/-- Two subtrees are structurally equal exactly if both are absent, or both are
present and captured as the same raw tree up to lines and columns.  The answer
is the same where a node of one tree is passed over when it is compared with
itself, and the comparison is an equivalence of the nodes of all trees. -/
theorem structurallyEqual_iff_unplaced_eq :
    (∀ (left right : Tree) (a b : Option Nat),
      left.structurallyEqual right a b = true ↔
        (a = none ∧ b = none) ∨
        ∃ first second, a = some first ∧ b = some second ∧
          (left.capture first).unplaced = (right.capture second).unplaced) ∧
    (∀ (tree : Tree) (a b : Option Nat),
      tree.structurallyEqualWithin a b = tree.structurallyEqual tree a b) ∧
    Equivalence fun first second : Tree × Option Nat =>
      first.1.structurallyEqual second.1 first.2 second.2 = true := by
  refine ⟨?_, ?_, ?_⟩
  · intro left right a b
    rw [Tree.structurallyEqual_iff_outline, Tree.outline_eq_outline_iff]
  · intro tree a b
    rw [Bool.eq_iff_iff, Tree.structurallyEqualWithin_iff_outline,
      Tree.structurallyEqual_iff_outline]
  · simp only [Tree.structurallyEqual_iff_outline]
    exact ⟨fun _ => rfl, fun equal => equal.symm, fun first second => first.trans second⟩

end TreeLint
