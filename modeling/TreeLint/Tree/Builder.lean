import TreeLint.Tree.Basic

/-!
# Building trees

A builder follows a pre-order walk of the tree to be: a compound node is
opened, its slots are filled with tokens, absent slots and further nodes, and
it is closed.  A node receives the next index when it is complete, so children
stand before their parents; the builder carries the proof of this along.
-/

namespace TreeLint

/-- A node that is still open, with the slots filled so far. -/
structure OpenNode where
  kind : Kind
  slots : Array (Option Nat)
deriving DecidableEq, Repr

/-- Every child in the slots refers to one of the first `bound` nodes. -/
def SlotsBelow (slots : Array (Option Nat)) (bound : Nat) : Prop :=
  ∀ child : Nat, some child ∈ slots → child < bound

theorem SlotsBelow.mono {slots : Array (Option Nat)} {bound larger : Nat}
    (below : SlotsBelow slots bound) (le : bound ≤ larger) : SlotsBelow slots larger :=
  fun child isChild => Nat.lt_of_lt_of_le (below child isChild) le

theorem SlotsBelow.empty (bound : Nat) : SlotsBelow #[] bound := by
  intro child isChild
  simp at isChild

theorem SlotsBelow.push {slots : Array (Option Nat)} {bound : Nat} {slot : Option Nat}
    (below : SlotsBelow slots bound) (new : ∀ child, slot = some child → child < bound) :
    SlotsBelow (slots.push slot) bound := by
  intro child isChild
  rcases Array.mem_push.1 isChild with old | added
  · exact below child old
  · exact new child added.symm

theorem childrenFirst_empty : ChildrenFirst #[] := by
  intro id data child found
  simp at found

theorem childrenFirst_push {nodes : Array NodeData} {data : NodeData}
    (first : ChildrenFirst nodes) (below : SlotsBelow data.slots nodes.size) :
    ChildrenFirst (nodes.push data) := by
  intro id entry child found isChild
  rw [Array.getElem?_push] at found
  split at found
  · rename_i last
    cases found
    subst last
    exact below child isChild
  · exact first id entry child found isChild

/-- A tree under construction: the completed nodes, the open ones with the
innermost first, and the completed nodes that stand in no slot. -/
structure Builder where
  nodes : Array NodeData
  opened : List OpenNode
  roots : Array Nat
  childrenFirst : ChildrenFirst nodes
  openedBelow : ∀ node ∈ opened, SlotsBelow node.slots nodes.size
  rootsBelow : ∀ root ∈ roots, root < nodes.size

namespace Builder

def empty : Builder where
  nodes := #[]
  opened := []
  roots := #[]
  childrenFirst := childrenFirst_empty
  openedBelow := by simp
  rootsBelow := by simp

def startNode (builder : Builder) (kind : Kind) : Builder :=
  { builder with
    opened := ⟨kind, #[]⟩ :: builder.opened
    openedBelow := by
      intro node isOpen
      rcases List.mem_cons.1 isOpen with new | old
      · subst new
        exact SlotsBelow.empty _
      · exact builder.openedBelow node old }

/-- Adds a complete node and puts it into the innermost open node, or among the
roots if none is open. -/
def complete (builder : Builder) (data : NodeData)
    (below : SlotsBelow data.slots builder.nodes.size) : Builder :=
  -- the index is read before the arena grows, so that it grows in place
  let id := builder.nodes.size
  match _innermost : builder.opened with
  | [] =>
    { nodes := builder.nodes.push data
      opened := []
      roots := builder.roots.push id
      childrenFirst := childrenFirst_push builder.childrenFirst below
      openedBelow := by simp
      rootsBelow := by
        intro root isRoot
        rw [Array.size_push]
        rcases Array.mem_push.1 isRoot with old | added
        · exact Nat.lt_succ_of_lt (builder.rootsBelow root old)
        · omega }
  | node :: outer =>
    { nodes := builder.nodes.push data
      opened := ⟨node.kind, node.slots.push (some id)⟩ :: outer
      roots := builder.roots
      childrenFirst := childrenFirst_push builder.childrenFirst below
      openedBelow := by
        intro frame isOpen
        have grown : builder.nodes.size ≤ (builder.nodes.push data).size := by simp
        rcases List.mem_cons.1 isOpen with new | old
        · subst new
          have slotsBelow := builder.openedBelow node (by simp [_innermost])
          refine (slotsBelow.mono grown).push ?_
          intro child same
          cases same
          simp [id]
        · exact (builder.openedBelow frame (by simp [_innermost, old])).mono grown
      rootsBelow := by
        intro root isRoot
        rw [Array.size_push]
        exact Nat.lt_succ_of_lt (builder.rootsBelow root isRoot) }

/-- Adds a token and returns its index. -/
def token (builder : Builder) (kind : Kind) (text : String) (line column : UInt32) :
    Nat × Builder :=
  (builder.nodes.size,
    builder.complete (.token kind text ⟨line, column⟩) (SlotsBelow.empty _))

/-- Adds an absent slot to the innermost open node.  Without one the builder stays
as it is. -/
def missing (builder : Builder) : Except Error Unit × Builder :=
  match _innermost : builder.opened with
  | [] => (.error (.malformedTree .slotOutsideNode), builder)
  | node :: outer =>
    (.ok (),
      { builder with
        opened := ⟨node.kind, node.slots.push none⟩ :: outer
        openedBelow := by
          intro frame isOpen
          rcases List.mem_cons.1 isOpen with new | old
          · subst new
            exact (builder.openedBelow node (by simp [_innermost])).push (by simp)
          · exact builder.openedBelow frame (by simp [_innermost, old]) })

/-- Closes the innermost open node and returns its index.  Without one the builder
stays as it is. -/
def finishNode (builder : Builder) : Except Error Nat × Builder :=
  match _innermost : builder.opened with
  | [] => (.error (.malformedTree .nothingOpen), builder)
  | node :: outer =>
    let id := builder.nodes.size
    let closed : Builder :=
      { builder with
        opened := outer
        openedBelow := fun frame isOpen =>
          builder.openedBelow frame (by simp [_innermost, isOpen]) }
    (.ok id,
      closed.complete (.compound node.kind node.slots)
        (builder.openedBelow node (by simp [_innermost])))

/-- Freezes the tree.  Open nodes are complained about before the number of
roots. -/
def finish (builder : Builder) : Except Error Tree :=
  match builder.opened with
  | node :: outer => .error (.malformedTree (.leftOpen (outer.length + 1) node.kind))
  | [] =>
    match _roots : builder.roots.toList with
    | [] => .error (.malformedTree .noRoot)
    | [root] =>
      .ok
        { nodes := builder.nodes
          links := linksOf builder.nodes
          root := root
          childrenFirst := builder.childrenFirst
          linked := rfl
          rooted := builder.rootsBelow root (by
            rw [← Array.mem_toList_iff, _roots]
            simp) }
    | _ :: _ :: rest => .error (.malformedTree (.severalRoots (rest.length + 2)))

end Builder

inductive BuildCall where
  | start (kind : Kind)
  | token (kind : Kind) (text : String) (line column : UInt32)
  | missing
  | finish
deriving DecidableEq, Repr

/-- Makes one call; a token and a closed node answer with their index.  A call that
is refused leaves the builder as it is. -/
def Builder.call (builder : Builder) : BuildCall → Except Error (Option Nat) × Builder
  | .start kind => (.ok none, builder.startNode kind)
  | .token kind text line column =>
    let (id, builder) := builder.token kind text line column
    (.ok (some id), builder)
  | .missing =>
    let (answer, builder) := builder.missing
    (answer.map fun _ => none, builder)
  | .finish =>
    let (answer, builder) := builder.finishNode
    (answer.map some, builder)

end TreeLint
