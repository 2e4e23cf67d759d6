import TreeLint.Proofs.BuilderWords
import TreeLint.Proofs.NodeText

/-!
# Trees are recovered from their text

The text of a frozen tree is read back as the very same arena: the same record
and the same link under every index, and the same root.  Freezing the exchange
form of a term makes the calls of its word on an empty builder, and these are
the calls that led to the tree in the first place.
-/

namespace TreeLint

/-! ## Staying inside a node -/

theorem Sketch.opened_add {sketch : Sketch} (inside : sketch.opened ≠ []) (term : Term) :
    (sketch.add term).opened ≠ [] := by
  obtain ⟨opened, roots⟩ := sketch
  cases opened with
  | nil => exact absurd rfl inside
  | cons node outer => simp [add]

namespace Builder

theorem opened_callAll_word {builder : Builder} (inside : builder.opened ≠ []) (term : Term) :
    (builder.callAll term.word).opened ≠ [] := by
  have added := (builder.accepted_word term).2
  intro closed
  have sketchInside : builder.sketch.opened ≠ [] := fun none => inside (opened_of_sketch none)
  refine Sketch.opened_add sketchInside term ?_
  rw [← added, sketch, closed]
  rfl

theorem missing_eq_call {builder : Builder} (inside : builder.opened ≠ []) :
    builder.missing = (.ok (), (builder.call .missing).2) ∧
      (builder.call .missing).2.opened ≠ [] := by
  obtain ⟨node, outer, opened⟩ := List.exists_cons_of_ne_nil inside
  obtain ⟨answer, -, filled, -⟩ := missing_of_open opened
  refine ⟨Prod.ext answer rfl, ?_⟩
  rw [Builder.call]
  simp [filled]

theorem finishNode_eq_call {builder : Builder} (inside : builder.opened ≠ []) :
    builder.finishNode = (.ok builder.nodes.size, (builder.call .finish).2) := by
  obtain ⟨node, outer, opened⟩ := List.exists_cons_of_ne_nil inside
  exact Prod.ext (by rw [finishNode_of_open opened]) rfl

end Builder

/-! ## Freezing the exchange form -/

namespace RawNode

theorem buildFrom_slots {slots : List (Option Term)}
    (terms : ∀ term, some term ∈ slots → ∀ rest (builder : Builder),
      buildFrom (.enter (some term.raw) :: rest) builder =
        buildFrom rest (builder.callAll term.word))
    (rest : List BuildStep) {builder : Builder} (inside : builder.opened ≠ []) :
    (builder.callAll (Term.slotWords slots)).opened ≠ [] ∧
      buildFrom (BuildStep.enterAll (Term.rawSlots slots) ++ rest) builder =
        buildFrom rest (builder.callAll (Term.slotWords slots)) := by
  induction slots generalizing builder with
  | nil => exact ⟨inside, rfl⟩
  | cons slot slots ih =>
      have later := fun term member => terms term (List.mem_cons_of_mem _ member)
      cases slot with
      | none =>
          obtain ⟨absent, stillInside⟩ := Builder.missing_eq_call inside
          obtain ⟨ended, built⟩ := ih later stillInside
          refine ⟨ended, ?_⟩
          rw [Term.rawSlots, BuildStep.enterAll, List.map_cons, List.cons_append, buildFrom,
            absent]
          exact built
      | some term =>
          obtain ⟨ended, built⟩ := ih later (Builder.opened_callAll_word inside term)
          rw [Term.slotWords, Builder.callAll_append]
          refine ⟨ended, ?_⟩
          rw [Term.rawSlots, BuildStep.enterAll, List.map_cons, List.cons_append,
            terms term List.mem_cons_self]
          exact built

/-- Entering the exchange form of a term makes the calls of its word. -/
theorem buildFrom_raw (term : Term) (rest : List BuildStep) (builder : Builder) :
    buildFrom (.enter (some term.raw) :: rest) builder =
      buildFrom rest (builder.callAll term.word) := by
  induction term using Term.induction generalizing rest builder with
  | token kind text line column =>
      rw [Term.raw, RawNode.token, buildFrom]
      rfl
  | compound kind slots ih =>
      have inside : (builder.startNode kind).opened ≠ [] := by simp [Builder.startNode]
      obtain ⟨ended, filled⟩ := buildFrom_slots ih (.close :: rest) inside
      calc
        _ = buildFrom (BuildStep.enterAll (Term.rawSlots slots) ++ .close :: rest)
              (builder.startNode kind) := by
            rw [Term.raw, RawNode.node, buildFrom]
        _ = buildFrom (.close :: rest)
              ((builder.startNode kind).callAll (Term.slotWords slots)) := filled
        _ = buildFrom rest (((builder.startNode kind).callAll (Term.slotWords slots)).call
              .finish).2 := by
            rw [buildFrom, Builder.finishNode_eq_call ended]
        _ = _ := by
            rw [Term.word, Builder.callAll_cons, Builder.callAll_append]
            rfl

theorem toTree_raw (term : Term) : term.raw.toTree = (Builder.after term.word).finish := by
  rw [toTree, buildFrom_raw, buildFrom]

end RawNode

/-- The text of a frozen tree is read back as this tree: every node record, every
link and the root are the same.  This holds for every run of a builder, whatever
calls it refused, and for all texts, positions, absent slots and kinds. -/
theorem ofJson_toJson_of_frozen {calls : List BuildCall} {tree : Tree}
    (frozen : (Builder.after calls).finish = .ok tree) : Tree.ofJson tree.toJson = .ok tree := by
  have sameRun : Builder.after (tree.term tree.root).word = Builder.after calls := by
    rw [← Builder.accepted_eq_word frozen]
    exact Builder.empty.callAll_accepted calls
  rw [Tree.ofJson, Tree.toJson, RawNode.ofJson_toJson, tree.capture_eq_raw_term]
  exact (RawNode.toTree_raw _).trans (sameRun ▸ frozen)

/-- A run whose tree needs escapes, the largest line, an absent last slot and an
empty node of unknown kind. -/
def awkwardBlock : List BuildCall :=
  [.finish, .start .block, .token .stringLiteral "\"\\\u0001\né😀" 4294967295 0, .missing,
    .start .unknown, .finish, .missing, .finish]

theorem awkwardBlock_recovered :
    ∃ tree, (Builder.after awkwardBlock).finish = .ok tree ∧
      Tree.ofJson tree.toJson = .ok tree := by
  obtain ⟨tree, frozen⟩ : ∃ tree, (Builder.after awkwardBlock).finish = .ok tree := ⟨_, rfl⟩
  exact ⟨tree, frozen, ofJson_toJson_of_frozen frozen⟩

end TreeLint
