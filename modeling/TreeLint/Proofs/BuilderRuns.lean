import TreeLint.Tree.Builder

/-!
# Runs of a builder

A run makes calls on a builder one after the other.  A refused call is passed
over: it leaves the builder as it was.  What every call preserves holds after
every run.
-/

namespace TreeLint

attribute [ext] Builder

namespace Builder

/-- Makes all calls in turn, whatever they answer. -/
def callAll (builder : Builder) (calls : List BuildCall) : Builder :=
  calls.foldl (fun builder call => (builder.call call).2) builder

@[simp]
theorem callAll_nil (builder : Builder) : builder.callAll [] = builder := rfl

@[simp]
theorem callAll_cons (builder : Builder) (call : BuildCall) (rest : List BuildCall) :
    builder.callAll (call :: rest) = (builder.call call).2.callAll rest := rfl

theorem callAll_append (builder : Builder) (first second : List BuildCall) :
    builder.callAll (first ++ second) = (builder.callAll first).callAll second :=
  List.foldl_append

/-- The builder after a run from the start. -/
abbrev after (calls : List BuildCall) : Builder :=
  empty.callAll calls

theorem callAll_induction {property : Builder → Prop} {builder : Builder}
    (start : property builder)
    (step : ∀ builder call, property builder → property (builder.call call).2)
    (calls : List BuildCall) : property (builder.callAll calls) := by
  induction calls generalizing builder with
  | nil => exact start
  | cons call rest ih => exact ih (step builder call start)

/-! ## What the calls do -/

section Complete

variable {builder : Builder} (data : NodeData)
  (below : SlotsBelow data.slots builder.nodes.size)

@[simp]
theorem complete_nodes : (builder.complete data below).nodes = builder.nodes.push data := by
  obtain ⟨nodes, opened, roots, first, openedBelow, rootsBelow⟩ := builder
  cases opened <;> rfl

theorem complete_of_closed (closed : builder.opened = []) :
    (builder.complete data below).opened = [] ∧
      (builder.complete data below).roots = builder.roots.push builder.nodes.size := by
  obtain ⟨nodes, opened, roots, first, openedBelow, rootsBelow⟩ := builder
  subst closed
  exact ⟨rfl, rfl⟩

theorem complete_of_open {node : OpenNode} {outer : List OpenNode}
    (innermost : builder.opened = node :: outer) :
    (builder.complete data below).opened =
        ⟨node.kind, node.slots.push (some builder.nodes.size)⟩ :: outer ∧
      (builder.complete data below).roots = builder.roots := by
  obtain ⟨nodes, opened, roots, first, openedBelow, rootsBelow⟩ := builder
  subst innermost
  exact ⟨rfl, rfl⟩

end Complete

theorem missing_of_closed {builder : Builder} (closed : builder.opened = []) :
    builder.missing = (.error (.malformedTree .slotOutsideNode), builder) := by
  obtain ⟨nodes, opened, roots, first, openedBelow, rootsBelow⟩ := builder
  subst closed
  rfl

theorem missing_of_open {builder : Builder} {node : OpenNode} {outer : List OpenNode}
    (innermost : builder.opened = node :: outer) :
    builder.missing.1 = .ok () ∧ builder.missing.2.nodes = builder.nodes ∧
      builder.missing.2.opened = ⟨node.kind, node.slots.push none⟩ :: outer ∧
      builder.missing.2.roots = builder.roots := by
  obtain ⟨nodes, opened, roots, first, openedBelow, rootsBelow⟩ := builder
  subst innermost
  exact ⟨rfl, rfl, rfl, rfl⟩

theorem finishNode_of_closed {builder : Builder} (closed : builder.opened = []) :
    builder.finishNode = (.error (.malformedTree .nothingOpen), builder) := by
  obtain ⟨nodes, opened, roots, first, openedBelow, rootsBelow⟩ := builder
  subst closed
  rfl

theorem outerBelow {builder : Builder} {node : OpenNode} {outer : List OpenNode}
    (innermost : builder.opened = node :: outer) :
    ∀ frame ∈ outer, SlotsBelow frame.slots builder.nodes.size := by
  intro frame isOuter
  exact builder.openedBelow frame (by simp [innermost, isOuter])

/-- The builder without its innermost open node. -/
def leaveInnermost (builder : Builder) {node : OpenNode} {outer : List OpenNode}
    (innermost : builder.opened = node :: outer) : Builder :=
  { builder with opened := outer, openedBelow := outerBelow innermost }

theorem finishNode_of_open {builder : Builder} {node : OpenNode} {outer : List OpenNode}
    (innermost : builder.opened = node :: outer) :
    builder.finishNode =
      (.ok builder.nodes.size,
        (builder.leaveInnermost innermost).complete (.compound node.kind node.slots)
          (builder.openedBelow node (by simp [innermost]))) := by
  obtain ⟨nodes, opened, roots, first, openedBelow, rootsBelow⟩ := builder
  cases opened with
  | nil => cases innermost
  | cons frame frames =>
      cases innermost
      rfl

/-- A refused call was an absent slot or a close outside of any node, and it
leaves the builder as it was. -/
theorem call_refused {builder : Builder} {call : BuildCall} {error : Error}
    (refused : (builder.call call).1 = .error error) :
    builder.opened = [] ∧ (call = .missing ∨ call = .finish) ∧
      (builder.call call).2 = builder := by
  cases call with
  | start kind => simp [Builder.call] at refused
  | token kind text line column => simp [Builder.call] at refused
  | missing =>
      cases opened : builder.opened with
      | nil => simp [Builder.call, missing_of_closed opened]
      | cons node outer =>
          simp [Builder.call, (missing_of_open opened).1, Except.map] at refused
  | finish =>
      cases opened : builder.opened with
      | nil => simp [Builder.call, finishNode_of_closed opened]
      | cons node outer =>
          simp [Builder.call, finishNode_of_open opened, Except.map] at refused

/-! ## Freezing -/

theorem finish_of_open {builder : Builder} {node : OpenNode} {outer : List OpenNode}
    (innermost : builder.opened = node :: outer) :
    builder.finish = .error (.malformedTree (.leftOpen builder.opened.length node.kind)) := by
  rw [finish, innermost]
  rfl

theorem finish_of_noRoot {builder : Builder} (closed : builder.opened = [])
    (noRoot : builder.roots = #[]) : builder.finish = .error (.malformedTree .noRoot) := by
  obtain ⟨nodes, opened, roots, first, openedBelow, rootsBelow⟩ := builder
  subst closed noRoot
  rfl

theorem finish_of_severalRoots {builder : Builder} (closed : builder.opened = [])
    (several : 2 ≤ builder.roots.size) :
    builder.finish = .error (.malformedTree (.severalRoots builder.roots.size)) := by
  obtain ⟨nodes, opened, ⟨roots⟩, first, openedBelow, rootsBelow⟩ := builder
  subst closed
  match roots with
  | [] => simp at several
  | [_] => simp at several
  | _ :: _ :: rest => rfl

theorem finish_of_root {builder : Builder} {root : Nat} (closed : builder.opened = [])
    (oneRoot : builder.roots = #[root]) :
    ∃ tree, builder.finish = .ok tree ∧ tree.nodes = builder.nodes ∧ tree.root = root := by
  obtain ⟨nodes, opened, roots, first, openedBelow, rootsBelow⟩ := builder
  subst closed oneRoot
  exact ⟨_, rfl, rfl, rfl⟩

theorem finish_ok {builder : Builder} {tree : Tree} (frozen : builder.finish = .ok tree) :
    builder.opened = [] ∧ builder.roots = #[tree.root] ∧ tree.nodes = builder.nodes := by
  cases opened : builder.opened with
  | cons node outer => simp [finish_of_open opened] at frozen
  | nil =>
      rcases Nat.lt_trichotomy builder.roots.size 1 with none | one | several
      · have noRoot : builder.roots = #[] := Array.eq_empty_of_size_eq_zero (by omega)
        simp [finish_of_noRoot opened noRoot] at frozen
      · obtain ⟨root, oneRoot⟩ := Array.size_eq_one_iff.mp one
        obtain ⟨same, result, nodes, rooted⟩ := finish_of_root opened oneRoot
        rw [frozen] at result
        cases result
        exact ⟨rfl, by rw [oneRoot, rooted], nodes⟩
      · simp [finish_of_severalRoots opened several] at frozen

/-- Why a tree could not be frozen: nodes were left open, or there was not
exactly one root. -/
theorem finish_error_iff (builder : Builder) (error : Error) :
    builder.finish = .error error ↔
      (∃ node outer, builder.opened = node :: outer ∧
        error = .malformedTree (.leftOpen (outer.length + 1) node.kind)) ∨
      (builder.opened = [] ∧ builder.roots.size = 0 ∧ error = .malformedTree .noRoot) ∨
      (builder.opened = [] ∧ 2 ≤ builder.roots.size ∧
        error = .malformedTree (.severalRoots builder.roots.size)) := by
  cases opened : builder.opened with
  | cons node outer =>
      rw [finish_of_open opened, opened]
      constructor
      · rintro ⟨⟩
        exact .inl ⟨node, outer, rfl, rfl⟩
      · rintro (⟨innermost, frames, ⟨⟩, rfl⟩ | ⟨closed, -⟩ | ⟨closed, -⟩)
        · rfl
        · simp at closed
        · simp at closed
  | nil =>
      rcases Nat.lt_trichotomy builder.roots.size 1 with none | one | several
      · have noRoot : builder.roots = #[] := Array.eq_empty_of_size_eq_zero (by omega)
        rw [finish_of_noRoot opened noRoot]
        simp [noRoot, eq_comm]
      · obtain ⟨root, oneRoot⟩ := Array.size_eq_one_iff.mp one
        obtain ⟨tree, frozen, -, -⟩ := finish_of_root opened oneRoot
        simp [frozen, one]
      · have someRoot : builder.roots.size ≠ 0 := by omega
        have twoRoots : 2 ≤ builder.roots.size := several
        rw [finish_of_severalRoots opened several]
        simp [someRoot, twoRoots, eq_comm]

end Builder

/-- A run with two refused calls whose tree has an absent slot. -/
def bareReturn : List BuildCall :=
  [.missing, .start .returnStatement, .token .returnKw "return" 1 0, .missing,
    .token .semicolon ";" 1 6, .finish, .finish]

/-- Two nested blocks, in the inner one of which a statement follows a jump.  The
layout depends on the line on which the jump stands. -/
def deadEcho (line : UInt32) : List BuildCall :=
  [.start .block, .start .block,
    .start .statement, .start .breakStatement, .token .breakKw "break" line 4, .missing,
    .token .semicolon ";" line 9, .finish, .finish, .missing,
    .start .statement, .token .echoKw "echo" (line + 1) 4, .finish, .finish, .finish]

/-- A block with absent slots before, between and behind its children, of which the
first and the last have no token. -/
def gappedBlock : List BuildCall :=
  [.start .block, .missing, .start .statement, .finish, .missing,
    .token .lBrace "\x7b" 1 0, .missing, .missing, .token .rBrace "\x7d" 1 2,
    .start .statement, .missing, .finish, .missing, .finish]

end TreeLint
