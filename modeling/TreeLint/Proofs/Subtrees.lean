import TreeLint.Proofs.Numbering
import TreeLint.Proofs.Traversals
import TreeLint.Proofs.TreeRoundTrip

/-!
# Subtrees as trees of their own

The nodes of a subtree are a run of consecutive indices that ends with its top.
A captured subtree, frozen again, is this run moved to the front of an arena:
the records are the same, and all indices in slots and links are smaller by the
index at which the run started.
-/

namespace TreeLint

/-! ## Moving records -/

/-- The record with the indices in its slots increased. -/
def NodeData.shift (offset : Nat) : NodeData → NodeData
  | .compound kind slots => .compound kind (slots.map (Option.map (offset + ·)))
  | .token kind text position => .token kind text position

theorem NodeData.slots_shift (data : NodeData) (offset : Nat) :
    (data.shift offset).slots = data.slots.map (Option.map (offset + ·)) := by
  cases data with
  | compound kind slots => rfl
  | token kind text position => simp [shift, slots]

namespace Term

theorem slotIds_shift (offset next : Nat) (slots : List (Option Term)) :
    slotIds (offset + next) slots = (slotIds next slots).map (Option.map (offset + ·)) := by
  induction slots generalizing next with
  | nil => rfl
  | cons slot rest ih =>
      cases slot with
      | none => simp [slotIds, ih]
      | some term =>
          have positive := term.count_pos
          have last : offset + next + term.count - 1 = offset + (next + term.count - 1) := by
            omega
          rw [slotIds, slotIds, last, Nat.add_assoc, ih]
          rfl

mutual

/-- The records of a term at a later place are its records moved there. -/
theorem records_shift (offset next : Nat) : ∀ term : Term,
    term.records (offset + next) = (term.records next).map (NodeData.shift offset)
  | .token _ _ _ _ => rfl
  | .compound kind slots => by
      rw [records, records, slotRecords_shift offset next slots, slotIds_shift,
        List.map_append]
      simp [NodeData.shift]

theorem slotRecords_shift (offset next : Nat) : ∀ slots : List (Option Term),
    slotRecords (offset + next) slots =
      (slotRecords next slots).map (NodeData.shift offset)
  | [] => rfl
  | none :: rest => by
      rw [slotRecords, slotRecords]
      exact slotRecords_shift offset next rest
  | some term :: rest => by
      rw [slotRecords, slotRecords, records_shift offset next term, Nat.add_assoc,
        slotRecords_shift offset (next + term.count) rest, List.map_append]

end

end Term

namespace Tree

/-! ## Consecutive indices -/

/-- The segments of the children of a node follow one another. -/
theorem perm_range_of_slotIds {tree : Tree} {slots : List (Option Nat)} {start : Nat}
    (numbered : slots = Term.slotIds start (slots.map tree.slotTerm))
    (each : ∀ child, some child ∈ slots → ∀ first,
      first + (tree.term child).count = child + 1 →
        (tree.descendants child).Perm (List.range' first (tree.term child).count)) :
    ((slots.filterMap fun slot => slot).flatMap tree.descendants).Perm
      (List.range' start (Term.slotCount (slots.map tree.slotTerm))) := by
  induction slots generalizing start with
  | nil => simp [Term.slotCount]
  | cons slot rest ih =>
      have later := fun child member => each child (List.mem_cons_of_mem _ member)
      cases slot with
      | none =>
          have numberedRest := (List.cons.inj numbered).2
          simpa [Term.slotCount] using ih numberedRest later
      | some child =>
          obtain ⟨isLast, numberedRest⟩ := List.cons.inj numbered
          have isIndex := Option.some.inj isLast
          have positive := (tree.term child).count_pos
          have first := each child List.mem_cons_self start (by omega)
          rw [List.map_cons, slotTerm_some, Term.slotCount, ← List.range'_append_1]
          exact first.append (ih numberedRest later)

/-- The subtree of a node consists of the consecutive indices of its segment. -/
theorem Spans.descendants_perm {tree : Tree} {start id : Nat} (spans : tree.Spans start id) :
    (tree.descendants id).Perm (List.range' start (tree.term id).count) := by
  induction id using Nat.strongRecOn generalizing start with
  | ind id ih =>
      have ends := spans.ends
      cases isToken : tree.token? id with
      | some token =>
          rw [term_of_token isToken, Term.count] at ends ⊢
          rw [descendants_eq, children_of_token isToken]
          have isStart : start = id := by omega
          simp [isStart]
      | none =>
          have below := perm_range_of_slotIds (spans.slots_eq isToken) (by
            intro child isSlot first childEnds
            have isChild : child ∈ tree.children id := by simpa [children] using isSlot
            obtain ⟨other, childSpans⟩ := spans.child isChild
            obtain rfl : other = first := by
              have otherEnds := childSpans.ends
              omega
            exact ih child (lt_of_mem_children isChild) childSpans)
          rw [term_of_compound isToken, Term.count] at ends ⊢
          have isTop : id =
              start + 1 * Term.slotCount ((tree.slots id).toList.map tree.slotTerm) := by
            omega
          rw [descendants_eq, List.range'_concat, ← isTop]
          exact (below.cons id).trans (List.perm_append_singleton id _).symm

theorem Spans.length_descendants {tree : Tree} {start id : Nat} (spans : tree.Spans start id) :
    (tree.descendants id).length = (tree.term id).count := by
  rw [spans.descendants_perm.length_eq, List.length_range']

/-! ## Freezing a captured subtree -/

/-- The records of one tree stand in the other from `start` on. -/
def Relocated (sub tree : Tree) (start : Nat) : Prop :=
  ∀ index < sub.size, tree.nodes[start + index]? = sub.nodes[index]?.map (NodeData.shift start)

section Relocated

variable {sub tree : Tree} {start index : Nat}

theorem Relocated.kind_eq (relocated : sub.Relocated tree start) (inside : index < sub.size) :
    sub.kind index = tree.kind (start + index) := by
  rw [kind, kind, relocated index inside]
  cases sub.nodes[index]? with
  | none => rfl
  | some data => cases data <;> rfl

theorem Relocated.token_eq (relocated : sub.Relocated tree start) (inside : index < sub.size) :
    (sub.token? index).map (fun token => (token.text, token.position)) =
      (tree.token? (start + index)).map fun token => (token.text, token.position) := by
  rw [token?, token?, relocated index inside]
  cases sub.nodes[index]? with
  | none => rfl
  | some data => cases data <;> rfl

theorem Relocated.slots_eq (relocated : sub.Relocated tree start) (inside : index < sub.size) :
    tree.slots (start + index) = (sub.slots index).map (Option.map (start + ·)) := by
  rw [slots, slots, relocated index inside]
  cases sub.nodes[index]? with
  | none => simp
  | some data => exact data.slots_shift start

/-- A link inside the run leads to the same slot of the moved parent. -/
theorem Relocated.link_eq {builder subBuilder : Builder} (relocated : sub.Relocated tree start)
    (subFrozen : sub.FrozenFrom subBuilder) (frozen : tree.FrozenFrom builder) {link : Link}
    (linked : sub.link? index = some link) :
    tree.link? (start + index) = some ⟨start + link.parent, link.slot⟩ := by
  have held := (subFrozen.link?_eq_some_iff index link).mp linked
  have parentInside : link.parent < sub.size := by
    obtain ⟨data, isNode, -⟩ := (sub.getElem?_slots_iff index link).mp held
    exact (Array.getElem?_eq_some_iff.mp isNode).1
  rw [frozen.link?_eq_some_iff, relocated.slots_eq parentInside, Array.getElem?_map, held]
  rfl

end Relocated

/-- Freezing the capture of a node gives the segment of the node as a tree. -/
theorem Spans.toTree_capture {tree : Tree} {start id : Nat} (spans : tree.Spans start id) :
    ∃ sub, (tree.capture id).toTree = .ok sub ∧ sub.FrozenFrom (Builder.after (tree.term id).word) ∧
      sub.size = (tree.term id).count ∧ sub.Relocated tree start := by
  obtain ⟨sub, frozen⟩ := Builder.finish_of_accepted (Builder.empty.accepted_word (tree.term id)).1
  have records : sub.nodes.toList = (tree.term id).records 0 := by
    rw [(Builder.finish_ok frozen).2.2, Builder.nodes_after_word]
  have size : sub.size = (tree.term id).count := by
    rw [Tree.size, ← Array.length_toList, records, Term.length_records]
  refine ⟨sub, ?_, frozenFrom_of_finish frozen, size, ?_⟩
  · rw [tree.capture_eq_raw_term, RawNode.toTree_raw]
    exact frozen
  · intro index inside
    rw [spans.getElem? index (size ▸ inside), ← Array.getElem?_toList, records,
      ← List.getElem?_map, ← Term.records_shift, Nat.add_zero]

end Tree

/-- The subtree of a node consists of consecutive indices, the last of which is
the node itself.  Freezing its capture succeeds, and the result is this run of
records moved to the front: kinds, texts and positions are the same, absent slots
are absent, and the indices in the slots and in the links are smaller by the
first index of the run. -/
theorem subtree_is_relocated_run {calls : List BuildCall} {tree : Tree}
    (frozen : (Builder.after calls).finish = .ok tree) {id : Nat} (inside : id < tree.size) :
    ∃ start, start + (tree.descendants id).length = id + 1 ∧
      (tree.descendants id).Perm (List.range' start (tree.descendants id).length) ∧
      ∃ sub, (tree.capture id).toTree = .ok sub ∧
        sub.size = (tree.descendants id).length ∧ sub.root + 1 = sub.size ∧
        (∀ index < sub.size,
          sub.kind index = tree.kind (start + index) ∧
          (sub.token? index).map (fun token => (token.text, token.position)) =
            (tree.token? (start + index)).map (fun token => (token.text, token.position)) ∧
          tree.slots (start + index) = (sub.slots index).map (Option.map (start + ·))) ∧
        (∀ index < sub.size, index ≠ sub.root → ∃ link, sub.link? index = some link ∧
          tree.link? (start + index) = some ⟨start + link.parent, link.slot⟩) ∧
        sub.link? sub.root = none := by
  obtain ⟨start, spans⟩ := Tree.exists_spans frozen inside
  obtain ⟨sub, captured, subFrozen, size, relocated⟩ := spans.toTree_capture
  have count := spans.length_descendants
  refine ⟨start, by rw [count, spans.ends], by rw [count]; exact spans.descendants_perm, sub,
    captured, by rw [count, size], subFrozen.root_succ_eq_size, ?_, ?_, subFrozen.link?_root⟩
  · intro index isInside
    exact ⟨relocated.kind_eq isInside, relocated.token_eq isInside, relocated.slots_eq isInside⟩
  · intro index isInside notRoot
    obtain ⟨link, leads⟩ := subFrozen.exists_link isInside notRoot
    have linked := (subFrozen.link?_eq_some_iff index link).mpr
      ((sub.getElem?_slots_iff index link).mpr leads)
    exact ⟨link, linked,
      relocated.link_eq subFrozen (Tree.frozenFrom_of_finish frozen) linked⟩

theorem deadEcho_relocated :
    ∃ tree, (Builder.after (deadEcho 2)).finish = .ok tree ∧ 5 < tree.size ∧
      tree.descendants 5 = [5, 4] ∧
      ∃ sub, (tree.capture 5).toTree = .ok sub ∧ sub.size = 2 ∧ sub.root = 1 ∧
        sub.kind 0 = .echoKw ∧ tree.slots 5 = (sub.slots 1).map (Option.map (4 + ·)) ∧
        ∃ link, sub.link? 0 = some link ∧
          tree.link? 4 = some ⟨4 + link.parent, link.slot⟩ := by
  obtain ⟨tree, frozen, inside, below⟩ : ∃ tree,
      (Builder.after (deadEcho 2)).finish = .ok tree ∧ 5 < tree.size ∧
        tree.descendants 5 = [5, 4] ∧ tree.kind 4 = .echoKw :=
    ⟨_, rfl, by decide +kernel⟩
  obtain ⟨start, ends, -, sub, captured, size, root, same, links, -⟩ :=
    subtree_is_relocated_run frozen inside
  rw [below.1] at ends size
  obtain rfl : start = 4 := by simpa using ends
  have isRoot : sub.root = 1 := by simpa [size] using root
  refine ⟨tree, frozen, inside, below.1, sub, captured, size, isRoot, ?_, ?_, ?_⟩
  · exact (same 0 (by simp [size])).1.trans below.2
  · exact (same 1 (by simp [size])).2.2
  · exact links 0 (by simp [size]) (by simp [isRoot])

end TreeLint
