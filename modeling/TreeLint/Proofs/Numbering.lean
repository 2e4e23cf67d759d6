import TreeLint.Proofs.ArenaInvariant
import TreeLint.Proofs.BuilderWords

/-!
# The numbering of nodes

A builder numbers nodes in the order in which they are completed.  The records
that a term leaves in the arena are therefore known in advance: those of its
slots one after the other, then its own.  They depend on nothing but the term
and the first index that is not given out yet.

A frozen tree consists of the records of one term, and the records of the term
of any of its nodes form a segment of the arena that ends with this node.
-/

namespace TreeLint

namespace Term

mutual

def count : Term → Nat
  | .token _ _ _ _ => 1
  | .compound _ slots => slotCount slots + 1

def slotCount : List (Option Term) → Nat
  | [] => 0
  | none :: rest => slotCount rest
  | some term :: rest => term.count + slotCount rest

end

theorem count_pos (term : Term) : 0 < term.count := by
  cases term <;> simp [count]

/-- The indices of the terms in slots.  The records of each term follow those of
the previous ones, and the record of its top comes last. -/
def slotIds (next : Nat) : List (Option Term) → List (Option Nat)
  | [] => []
  | none :: rest => none :: slotIds next rest
  | some term :: rest => some (next + term.count - 1) :: slotIds (next + term.count) rest

mutual

/-- The records of a term, where `next` is the first free index. -/
def records (next : Nat) : Term → List NodeData
  | .token kind text line column => [.token kind text ⟨line, column⟩]
  | .compound kind slots =>
      slotRecords next slots ++ [.compound kind (slotIds next slots).toArray]

def slotRecords (next : Nat) : List (Option Term) → List NodeData
  | [] => []
  | none :: rest => slotRecords next rest
  | some term :: rest => term.records next ++ slotRecords (next + term.count) rest

end

mutual

theorem length_records (next : Nat) : ∀ term : Term, (term.records next).length = term.count
  | .token _ _ _ _ => rfl
  | .compound _ slots => by
      rw [records, List.length_append, length_slotRecords next slots, count]
      rfl

theorem length_slotRecords (next : Nat) :
    ∀ slots : List (Option Term), (slotRecords next slots).length = slotCount slots
  | [] => rfl
  | none :: rest => by
      rw [slotRecords, slotCount]
      exact length_slotRecords next rest
  | some term :: rest => by
      rw [slotRecords, slotCount, List.length_append, length_records next term,
        length_slotRecords (next + term.count) rest]

end

theorem slotIds_append (next : Nat) (first second : List (Option Term)) :
    slotIds next (first ++ second) =
      slotIds next first ++ slotIds (next + slotCount first) second := by
  induction first generalizing next with
  | nil => simp [slotIds, slotCount]
  | cons slot rest ih => cases slot <;> simp [slotIds, slotCount, ih, Nat.add_assoc]

theorem slotRecords_append (next : Nat) (first second : List (Option Term)) :
    slotRecords next (first ++ second) =
      slotRecords next first ++ slotRecords (next + slotCount first) second := by
  induction first generalizing next with
  | nil => simp [slotRecords, slotCount]
  | cons slot rest ih => cases slot <;> simp [slotRecords, slotCount, ih, Nat.add_assoc]

theorem length_slotIds (next : Nat) (slots : List (Option Term)) :
    (slotIds next slots).length = slots.length := by
  induction slots generalizing next with
  | nil => rfl
  | cons slot rest ih => cases slot <;> simp [slotIds, ih]

end Term

/-! ## Running the word of a term -/

namespace Builder

/-- The builder has completed a term and put it into the innermost open node. -/
structure HasTaken (builder grown : Builder) (term : Term) : Prop where
  nodes : grown.nodes.toList = builder.nodes.toList ++ term.records builder.nodes.size
  opened : ∀ node outer, builder.opened = node :: outer →
    grown.opened =
      ⟨node.kind, node.slots.push (some (builder.nodes.size + term.count - 1))⟩ :: outer

/-- The builder has filled slots of the innermost open node. -/
structure HasFilled (builder grown : Builder) (slots : List (Option Term)) : Prop where
  nodes : grown.nodes.toList = builder.nodes.toList ++ Term.slotRecords builder.nodes.size slots
  opened : ∀ node outer, builder.opened = node :: outer →
    grown.opened =
      ⟨node.kind, node.slots ++ (Term.slotIds builder.nodes.size slots).toArray⟩ :: outer

theorem hasTaken_token (builder : Builder) (kind : Kind) (text : String) (line column : UInt32) :
    HasTaken builder (builder.token kind text line column).2 (.token kind text line column) where
  nodes := by
    have pushed := @complete_nodes builder (.token kind text ⟨line, column⟩)
      (SlotsBelow.empty _)
    rw [Builder.token, pushed, Array.toList_push]
    rfl
  opened := by
    intro node outer innermost
    have filled := (complete_of_open (.token kind text ⟨line, column⟩)
      (SlotsBelow.empty _) innermost).1
    simpa [Builder.token, Term.count] using filled

theorem hasFilled_missing {builder : Builder} (inside : builder.opened ≠ []) :
    HasFilled builder (builder.call .missing).2 [none] := by
  obtain ⟨node, outer, innermost⟩ := List.exists_cons_of_ne_nil inside
  obtain ⟨-, nodes, filled, -⟩ := missing_of_open innermost
  rw [Builder.call]
  refine ⟨by simp [nodes, Term.slotRecords], ?_⟩
  rintro other others same
  rw [innermost] at same
  cases same
  simpa [Term.slotIds] using filled

theorem HasTaken.hasFilled {builder grown : Builder} {term : Term}
    (taken : HasTaken builder grown term) : HasFilled builder grown [some term] where
  nodes := by simpa [Term.slotRecords] using taken.nodes
  opened := by
    intro node outer innermost
    simpa [Term.slotIds] using taken.opened node outer innermost

theorem HasFilled.size {builder grown : Builder} {slots : List (Option Term)}
    (filled : HasFilled builder grown slots) :
    grown.nodes.size = builder.nodes.size + Term.slotCount slots := by
  have lengths := congrArg List.length filled.nodes
  rwa [List.length_append, Term.length_slotRecords] at lengths

theorem HasFilled.inside {builder grown : Builder} {slots : List (Option Term)}
    (filled : HasFilled builder grown slots) (inside : builder.opened ≠ []) :
    grown.opened ≠ [] := by
  obtain ⟨node, outer, innermost⟩ := List.exists_cons_of_ne_nil inside
  rw [filled.opened node outer innermost]
  exact List.cons_ne_nil _ _

theorem HasFilled.trans {builder middle grown : Builder} {first second : List (Option Term)}
    (earlier : HasFilled builder middle first) (later : HasFilled middle grown second) :
    HasFilled builder grown (first ++ second) where
  nodes := by
    rw [later.nodes, earlier.nodes, earlier.size, Term.slotRecords_append, List.append_assoc]
  opened := by
    intro node outer innermost
    rw [later.opened _ _ (earlier.opened node outer innermost), earlier.size,
      Term.slotIds_append, ← List.append_toArray, ← Array.append_assoc]

theorem call_finish_of_open {builder : Builder} {node : OpenNode} {outer : List OpenNode}
    (innermost : builder.opened = node :: outer) :
    (builder.call .finish).2.nodes = builder.nodes.push (.compound node.kind node.slots) ∧
      ∀ parent rest, outer = parent :: rest →
        (builder.call .finish).2.opened =
          ⟨parent.kind, parent.slots.push (some builder.nodes.size)⟩ :: rest := by
  have below := builder.openedBelow node (by simp [innermost])
  rw [Builder.call, finishNode_of_open innermost]
  refine ⟨@complete_nodes (builder.leaveInnermost innermost)
    (.compound node.kind node.slots) below, ?_⟩
  intro parent rest isOuter
  exact (@complete_of_open (builder.leaveInnermost innermost)
    (.compound node.kind node.slots) below parent rest isOuter).1

/-- Closing an open node whose slots have been filled with terms completes the
compound term. -/
theorem hasTaken_finish {builder grown : Builder} {kind : Kind} {slots : List (Option Term)}
    (filled : HasFilled (builder.startNode kind) grown slots) :
    HasTaken builder (grown.call .finish).2 (.compound kind slots) := by
  have innermost : grown.opened =
      ⟨kind, (Term.slotIds builder.nodes.size slots).toArray⟩ :: builder.opened := by
    have opened := filled.opened ⟨kind, #[]⟩ builder.opened rfl
    rwa [Array.empty_append] at opened
  have size : grown.nodes.size = builder.nodes.size + Term.slotCount slots := filled.size
  obtain ⟨nodes, opened⟩ := call_finish_of_open innermost
  refine ⟨?_, ?_⟩
  · rw [nodes, Array.toList_push, Term.records, ← List.append_assoc, filled.nodes]
    rfl
  · intro node outer isOuter
    rw [opened node outer isOuter, size, Term.count, ← Nat.add_assoc, Nat.add_sub_cancel]

theorem hasFilled_slotWords {slots : List (Option Term)}
    (terms : ∀ term, some term ∈ slots →
      ∀ builder : Builder, HasTaken builder (builder.callAll term.word) term)
    {builder : Builder} (inside : builder.opened ≠ []) :
    HasFilled builder (builder.callAll (Term.slotWords slots)) slots := by
  induction slots generalizing builder with
  | nil => exact ⟨by simp [Term.slotWords, Term.slotRecords],
      fun node outer innermost => by simpa [Term.slotWords, Term.slotIds] using innermost⟩
  | cons slot rest ih =>
      have later := fun term member => terms term (List.mem_cons_of_mem _ member)
      cases slot with
      | none =>
          have absent := hasFilled_missing inside
          exact absent.trans (ih later (absent.inside inside))
      | some term =>
          have taken := (terms term List.mem_cons_self builder).hasFilled
          rw [Term.slotWords, callAll_append]
          exact taken.trans (ih later (taken.inside inside))

/-- Running the word of a term appends the records of the term. -/
theorem hasTaken_word (term : Term) (builder : Builder) :
    HasTaken builder (builder.callAll term.word) term := by
  induction term using Term.induction generalizing builder with
  | token kind text line column => exact hasTaken_token builder kind text line column
  | compound kind slots ih =>
      have inside : (builder.startNode kind).opened ≠ [] := List.cons_ne_nil _ _
      have closed := hasTaken_finish (hasFilled_slotWords ih inside)
      rwa [Term.word, callAll_cons, callAll_append]

theorem nodes_after_word (term : Term) : (after term.word).nodes.toList = term.records 0 := by
  exact (hasTaken_word term empty).nodes

theorem after_word_of_finish {calls : List BuildCall} {tree : Tree}
    (frozen : (after calls).finish = .ok tree) :
    after (tree.term tree.root).word = after calls := by
  rw [← accepted_eq_word frozen]
  exact empty.callAll_accepted calls

end Builder

/-! ## Segments of the arena -/

namespace Tree

theorem nodes_eq_records {calls : List BuildCall} {tree : Tree}
    (frozen : (Builder.after calls).finish = .ok tree) :
    tree.nodes.toList = (tree.term tree.root).records 0 := by
  obtain ⟨-, -, nodes⟩ := Builder.finish_ok frozen
  rw [nodes, ← Builder.after_word_of_finish frozen, Builder.nodes_after_word]

/-- The records of the term of a node are the segment of the arena from `start`
up to this node. -/
structure Spans (tree : Tree) (start id : Nat) : Prop where
  ends : start + (tree.term id).count = id + 1
  segment : (tree.term id).records start <+: tree.nodes.toList.drop start

theorem Spans.getElem? {tree : Tree} {start id : Nat} (spans : tree.Spans start id)
    (offset : Nat) (inside : offset < (tree.term id).count) :
    tree.nodes[start + offset]? = ((tree.term id).records start)[offset]? := by
  rw [← Term.length_records start] at inside
  have held := List.prefix_iff_getElem?.mp spans.segment offset inside
  rw [List.getElem?_drop, Array.getElem?_toList] at held
  rw [held, List.getElem?_eq_getElem inside]

theorem prefix_drop_of_append {α : Type} {first second whole : List α} {start : Nat}
    (isPrefix : first ++ second <+: whole.drop start) :
    second <+: whole.drop (start + first.length) := by
  obtain ⟨rest, split⟩ := isPrefix
  rw [← List.drop_drop, ← split, List.append_assoc, List.drop_left]
  exact List.prefix_append _ _

/-- The slots of a node follow from where its segment starts. -/
theorem Spans.slots_eq {tree : Tree} {start id : Nat} (spans : tree.Spans start id)
    (noToken : tree.token? id = none) :
    (tree.slots id).toList =
      Term.slotIds start ((tree.slots id).toList.map tree.slotTerm) := by
  have isCompound := term_of_compound noToken
  have ends := spans.ends
  have last := spans.getElem? ((tree.term id).count - 1)
    (Nat.sub_lt (Term.count_pos _) Nat.one_pos)
  have position : start + ((tree.term id).count - 1) = id := by
    have positive := (tree.term id).count_pos
    omega
  rw [position, isCompound, Term.records, Term.count, Nat.add_sub_cancel,
    ← Term.length_slotRecords start, List.getElem?_concat_length] at last
  nth_rewrite 1 [slots]
  rw [last]
  rfl

theorem token?_of_mem_children {tree : Tree} {id child : Nat}
    (isChild : child ∈ tree.children id) : tree.token? id = none := by
  cases isToken : tree.token? id with
  | none => rfl
  | some token =>
      rw [children, slots_of_token isToken] at isChild
      simp at isChild

/-- The segment of a child lies inside that of its parent. -/
theorem Spans.child {tree : Tree} {start id child : Nat} (spans : tree.Spans start id)
    (isChild : child ∈ tree.children id) : ∃ first, tree.Spans first child := by
  have noToken := token?_of_mem_children isChild
  have isSlot : some child ∈ (tree.slots id).toList := by simpa [children] using isChild
  obtain ⟨earlier, later, split⟩ := List.append_of_mem isSlot
  have slots := spans.slots_eq noToken
  have segment := spans.segment
  rw [term_of_compound noToken, Term.records] at segment
  rw [split, List.map_append, List.map_cons, slotTerm_some] at slots segment
  refine ⟨start + Term.slotCount (earlier.map tree.slotTerm), ?_, ?_⟩
  · rw [Term.slotIds_append, Term.slotIds] at slots
    have sameLength : earlier.length =
        (Term.slotIds start (earlier.map tree.slotTerm)).length := by
      rw [Term.length_slotIds, List.length_map]
    obtain ⟨isLast, -⟩ := List.cons.inj (List.append_inj slots sameLength).2
    have isIndex := Option.some.inj isLast
    have positive := (tree.term child).count_pos
    omega
  · rw [Term.slotRecords_append, Term.slotRecords, List.append_assoc, List.append_assoc]
      at segment
    have behind := prefix_drop_of_append segment
    rw [Term.length_slotRecords] at behind
    exact (List.prefix_append _ _).trans behind

theorem spans_root {calls : List BuildCall} {tree : Tree}
    (frozen : (Builder.after calls).finish = .ok tree) : tree.Spans 0 tree.root := by
  have records := nodes_eq_records frozen
  refine ⟨?_, records ▸ List.prefix_rfl⟩
  have lengths := congrArg List.length records
  rw [Term.length_records] at lengths
  have last := (frozenFrom_of_finish frozen).root_succ_eq_size
  rw [size] at last
  simp only [Array.length_toList] at lengths
  omega

/-- Every node of a frozen tree ends the segment of its term. -/
theorem exists_spans {calls : List BuildCall} {tree : Tree}
    (frozen : (Builder.after calls).finish = .ok tree) {id : Nat} (inside : id < tree.size) :
    ∃ start, tree.Spans start id := by
  have reached := (frozenFrom_of_finish frozen).reachable inside
  clear inside
  -- along the way from the root, as the segments of children lie inside
  induction reached with
  | refl => exact ⟨0, spans_root frozen⟩
  | tail _ isChild ih =>
      obtain ⟨start, spans⟩ := ih
      exact spans.child isChild

end Tree

end TreeLint
