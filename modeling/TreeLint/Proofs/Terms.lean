import TreeLint.Tree.Raw

/-!
# Terms

A term is a syntax tree without indices: a token, or a compound node whose
slots hold terms or are absent.  Every node of an arena stands for a term, which
does not change when the arena grows.  Capturing a subtree gives the exchange
form of the term that its root stands for.
-/

namespace TreeLint

/-- A syntax tree as such, without an arena around it. -/
inductive Term where
  | token (kind : Kind) (text : String) (line column : UInt32)
  | compound (kind : Kind) (slots : List (Option Term))

namespace Term

@[elab_as_elim]
theorem induction {motive : Term → Prop}
    (token : ∀ kind text line column, motive (.token kind text line column))
    (compound : ∀ kind slots, (∀ term, some term ∈ slots → motive term) →
      motive (.compound kind slots)) : ∀ term, motive term
  | .token kind text line column => token kind text line column
  | .compound kind slots =>
      compound kind slots fun term _isSlot => induction token compound term
termination_by term => sizeOf term
decreasing_by
  have smaller := List.sizeOf_lt_of_mem _isSlot
  simp only [Option.some.sizeOf_spec, Term.compound.sizeOf_spec] at smaller ⊢
  omega

mutual

/-- The exchange form of a term. -/
def raw : Term → RawNode
  | .token kind text line column => .token kind text line column
  | .compound kind slots => .node kind (rawSlots slots)

/-- The exchange form of each slot. -/
def rawSlots : List (Option Term) → List (Option RawNode)
  | [] => []
  | none :: rest => none :: rawSlots rest
  | some term :: rest => some term.raw :: rawSlots rest

end

theorem rawSlots_eq_map (slots : List (Option Term)) :
    rawSlots slots = slots.map (Option.map raw) := by
  induction slots with
  | nil => rfl
  | cons slot rest ih => cases slot <;> simp [rawSlots, ih]

end Term

/-! ## The term of a node -/

/-- The term that a node of an arena stands for.  An index outside of the arena
stands for an empty node of unknown kind. -/
def termAt (nodes : Array NodeData) (first : ChildrenFirst nodes) (id : Nat) : Term :=
  match _found : nodes[id]? with
  | some (.token kind text position) => .token kind text position.line position.column
  | some (.compound kind slots) =>
      .compound kind (slots.toList.attach.map fun
        | ⟨none, _⟩ => none
        | ⟨some child, _isSlot⟩ => some (termAt nodes first child))
  | none => .compound .unknown []
termination_by id
decreasing_by exact first id _ child _found (Array.mem_toList_iff.mp _isSlot)

/-- The terms that stand in slots. -/
def slotTerms (nodes : Array NodeData) (first : ChildrenFirst nodes)
    (slots : Array (Option Nat)) : List (Option Term) :=
  slots.toList.map (Option.map (termAt nodes first))

theorem termAt_token {nodes : Array NodeData} (first : ChildrenFirst nodes) {id : Nat}
    {kind : Kind} {text : String} {position : Position}
    (found : nodes[id]? = some (.token kind text position)) :
    termAt nodes first id = .token kind text position.line position.column := by
  rw [termAt]
  split
  · simp_all
  · simp_all
  · simp_all

theorem termAt_compound {nodes : Array NodeData} (first : ChildrenFirst nodes) {id : Nat}
    {kind : Kind} {slots : Array (Option Nat)}
    (found : nodes[id]? = some (.compound kind slots)) :
    termAt nodes first id = .compound kind (slotTerms nodes first slots) := by
  rw [termAt]
  split
  · simp_all
  · rename_i otherKind otherSlots otherFound
    rw [found] at otherFound
    cases otherFound
    have attached := List.attach_map_val (l := slots.toList) (f := Option.map (termAt nodes first))
    rw [slotTerms, ← attached]
    congr 2
    funext slot
    obtain ⟨slot, isSlot⟩ := slot
    cases slot <;> rfl
  · simp_all

theorem termAt_outside {nodes : Array NodeData} (first : ChildrenFirst nodes) {id : Nat}
    (outside : nodes[id]? = none) : termAt nodes first id = .compound .unknown [] := by
  rw [termAt]
  split <;> simp_all

/-- The term of a node stays the same when the arena grows. -/
theorem termAt_push {nodes : Array NodeData} {data : NodeData} (first : ChildrenFirst nodes)
    (grown : ChildrenFirst (nodes.push data)) {id : Nat} (inside : id < nodes.size) :
    termAt (nodes.push data) grown id = termAt nodes first id := by
  induction id using Nat.strongRecOn with
  | ind id ih =>
      have same : (nodes.push data)[id]? = nodes[id]? :=
        Array.getElem?_push_lt inside ▸ (Array.getElem?_eq_getElem inside).symm
      cases found : nodes[id]? with
      | none =>
          have outside := Array.getElem?_eq_none_iff.mp found
          omega
      | some entry =>
          cases entry with
          | token kind text position =>
              rw [termAt_token first found, termAt_token grown (same.trans found)]
          | compound kind slots =>
              rw [termAt_compound first found, termAt_compound grown (same.trans found),
                slotTerms, slotTerms]
              congr 1
              refine List.map_congr_left ?_
              intro slot isSlot
              cases slot with
              | none => rfl
              | some child =>
                  have before := first id _ child found (Array.mem_toList_iff.mp isSlot)
                  exact congrArg some (ih child before (by omega))

theorem slotTerms_push {nodes : Array NodeData} {data : NodeData} (first : ChildrenFirst nodes)
    (grown : ChildrenFirst (nodes.push data)) {slots : Array (Option Nat)}
    (below : SlotsBelow slots nodes.size) :
    slotTerms (nodes.push data) grown slots = slotTerms nodes first slots := by
  refine List.map_congr_left ?_
  intro slot isSlot
  cases slot with
  | none => rfl
  | some child =>
      exact congrArg some
        (termAt_push first grown (below child (Array.mem_toList_iff.mp isSlot)))

@[simp]
theorem slotTerms_push_slot (nodes : Array NodeData) (first : ChildrenFirst nodes)
    (slots : Array (Option Nat)) (slot : Option Nat) :
    slotTerms nodes first (slots.push slot) =
      slotTerms nodes first slots ++ [slot.map (termAt nodes first)] := by
  simp [slotTerms]

/-! ## Capturing -/

namespace Tree

/-- The term that a node of a tree stands for. -/
def term (tree : Tree) (id : Nat) : Term :=
  termAt tree.nodes tree.childrenFirst id

/-- The term of what stands in a slot. -/
def slotTerm (tree : Tree) (slot : Option Nat) : Option Term :=
  slot.map tree.term

@[simp]
theorem slotTerm_none (tree : Tree) : tree.slotTerm none = none := rfl

@[simp]
theorem slotTerm_some (tree : Tree) (id : Nat) :
    tree.slotTerm (some id) = some (tree.term id) := rfl

theorem term_of_token {tree : Tree} {id : Nat} {token : Token}
    (isToken : tree.token? id = some token) :
    tree.term id =
      .token token.kind token.text token.position.line token.position.column := by
  unfold token? at isToken
  split at isToken
  · rename_i found
    cases isToken
    exact termAt_token tree.childrenFirst found
  · simp at isToken

theorem term_of_compound {tree : Tree} {id : Nat} (noToken : tree.token? id = none) :
    tree.term id =
      .compound (tree.kind id) ((tree.slots id).toList.map tree.slotTerm) := by
  cases found : tree.nodes[id]? with
  | none =>
      rw [term, termAt_outside tree.childrenFirst found]
      simp [kind, slots, found]
  | some data =>
      cases data with
      | token kind text position => simp [token?, found] at noToken
      | compound kind slots =>
          rw [term, termAt_compound tree.childrenFirst found]
          simp only [Tree.kind, Tree.slots, found, NodeData.kind, NodeData.slots]
          rfl

/-- The exchange form of what stands in a slot. -/
def slotRaw (tree : Tree) (slot : Option Nat) : Option RawNode :=
  (tree.slotTerm slot).map Term.raw

theorem slotRaw_of_token {tree : Tree} {id : Nat} {token : Token}
    (isToken : tree.token? id = some token) :
    tree.slotRaw (some id) =
      some (.token token.kind token.text token.position.line token.position.column) := by
  rw [slotRaw, slotTerm_some, Option.map_some, term_of_token isToken, Term.raw]

theorem slotRaw_of_compound {tree : Tree} {id : Nat} (noToken : tree.token? id = none) :
    tree.slotRaw (some id) =
      some (.node (tree.kind id) ((tree.slots id).toList.map tree.slotRaw)) := by
  rw [slotRaw, slotTerm_some, Option.map_some, term_of_compound noToken, Term.raw,
    Term.rawSlots_eq_map, List.map_map]
  rfl

/-- Induction from the slots of a compound node to the slot that holds it; it is strong
induction, as children stand before their parent. -/
@[elab_as_elim]
theorem slot_induction (tree : Tree) {motive : Option Nat → Prop} (absent : motive none)
    (token : ∀ id token, tree.token? id = some token → motive (some id))
    (compound : ∀ id, tree.token? id = none →
      (∀ slot ∈ (tree.slots id).toList, motive slot) → motive (some id))
    (slot : Option Nat) : motive slot := by
  rcases slot with _ | id
  · exact absent
  · induction id using Nat.strongRecOn with
    | ind id ih =>
        cases isToken : tree.token? id with
        | some found => exact token id found isToken
        | none =>
            apply compound id isToken
            intro slot isSlot
            rcases slot with _ | child
            · exact absent
            · have isChild : child ∈ tree.children id := by simpa [children] using isSlot
              exact ih child (lt_of_mem_children isChild)

theorem captureFrom_enterAll {tree : Tree} {slots : List (Option Nat)}
    (enter : ∀ slot ∈ slots, ∀ rest done,
      tree.captureFrom (.enter slot :: rest) done =
        tree.captureFrom rest (tree.slotRaw slot :: done))
    (rest : List CaptureStep) (done : List (Option RawNode)) :
    tree.captureFrom (slots.map .enter ++ rest) done =
      tree.captureFrom rest ((slots.map tree.slotRaw).reverse ++ done) := by
  induction slots generalizing done with
  | nil => rfl
  | cons slot slots ih =>
      rw [List.map_cons, List.cons_append, enter slot List.mem_cons_self,
        ih fun slot member => enter slot (List.mem_cons_of_mem _ member)]
      simp

theorem captureFrom_enter (tree : Tree) (slot : Option Nat) (rest : List CaptureStep)
    (done : List (Option RawNode)) :
    tree.captureFrom (.enter slot :: rest) done =
      tree.captureFrom rest (tree.slotRaw slot :: done) := by
  induction slot using slot_induction tree generalizing rest done with
  | absent =>
      rw [captureFrom]
      rfl
  | token id token isToken => rw [captureFrom, isToken, slotRaw_of_token isToken]
  | compound id noToken ih =>
      rw [captureFrom, noToken]
      simp only
      rw [captureFrom_enterAll ih, captureFrom, slotRaw_of_compound noToken]
      simp

/-- The captured subtree is the exchange form of the term of its root. -/
theorem capture_eq_raw_term (tree : Tree) (id : Nat) :
    tree.capture id = (tree.term id).raw := by
  rw [capture, captureFrom_enter, captureFrom]
  rfl

theorem slotRaw_eq_map (tree : Tree) : tree.slotRaw = Option.map tree.capture := by
  funext slot
  cases slot with
  | none => rfl
  | some id => exact congrArg some (tree.capture_eq_raw_term id).symm

theorem capture_of_token {tree : Tree} {id : Nat} {token : Token}
    (isToken : tree.token? id = some token) :
    tree.capture id =
      .token token.kind token.text token.position.line token.position.column := by
  have captured := slotRaw_of_token isToken
  rw [slotRaw_eq_map] at captured
  exact Option.some.inj captured

theorem capture_of_compound {tree : Tree} {id : Nat} (noToken : tree.token? id = none) :
    tree.capture id =
      .node (tree.kind id) ((tree.slots id).toList.map (Option.map tree.capture)) := by
  have captured := slotRaw_of_compound noToken
  rw [slotRaw_eq_map] at captured
  exact Option.some.inj captured

end Tree

/-! ## Dropping positions -/

namespace RawNode

mutual

/-- Keeps line and column only at nodes whose text passes the test. -/
def keepPlaces (keep : Option String → Bool) : RawNode → RawNode
  | .mk kind children text line column =>
      .mk kind (keepSlotPlaces keep children) text (if keep text then line else none)
        (if keep text then column else none)

def keepSlotPlaces (keep : Option String → Bool) :
    List (Option RawNode) → List (Option RawNode)
  | [] => []
  | none :: rest => none :: keepSlotPlaces keep rest
  | some raw :: rest => some (raw.keepPlaces keep) :: keepSlotPlaces keep rest

end

theorem keepSlotPlaces_eq_map (keep : Option String → Bool) (slots : List (Option RawNode)) :
    keepSlotPlaces keep slots = slots.map (Option.map (keepPlaces keep)) := by
  induction slots with
  | nil => rfl
  | cons slot rest ih => cases slot <;> simp [keepSlotPlaces, ih]

end RawNode

end TreeLint
