import TreeLint.Error

/-!
# Syntax trees in an arena

A frozen tree keeps its nodes in one array and refers to them by index.  A
compound node owns an ordered list of slots, each of which holds a child or is
absent (an omitted `else`, a bare `return`).  A token carries its text and the
position of its first character.  Node records never point at their parents;
navigation upwards and sideways uses a table of links computed from the slots.

Children always stand before their parent in the array.  This is part of the
type, since every traversal ends because of it.
-/

namespace TreeLint

/-- The place of a token: a line counted from 1 and a column counted from 0. -/
structure Position where
  line : UInt32
  column : UInt32
deriving DecidableEq, Repr

def Position.display (position : Position) : String :=
  toString position.line.toNat ++ ":" ++ toString position.column.toNat

inductive NodeData where
  | compound (kind : Kind) (slots : Array (Option Nat))
  | token (kind : Kind) (text : String) (position : Position)
deriving DecidableEq, Repr

namespace NodeData

def kind : NodeData → Kind
  | .compound kind _ => kind
  | .token kind _ _ => kind

/-- The slots of a node; a token has none. -/
def slots : NodeData → Array (Option Nat)
  | .compound _ slots => slots
  | .token _ _ _ => #[]

end NodeData

/-- The first present child in the slots from an index on. -/
def firstPresentFrom? (slots : Array (Option Nat)) (index : Nat) : Option Nat :=
  if _inside : index < slots.size then
    match slots[index] with
    | some child => some child
    | none => firstPresentFrom? slots (index + 1)
  else none
termination_by slots.size - index

theorem firstPresentFrom?_eq (slots : Array (Option Nat)) (index : Nat) :
    firstPresentFrom? slots index = (slots.toList.drop index).findSome? fun slot => slot := by
  fun_induction firstPresentFrom? slots index with
  | case1 index inside child present =>
    rw [List.drop_eq_getElem_cons (by simpa using inside)]
    simp [present]
  | case2 index inside absent ih =>
    rw [List.drop_eq_getElem_cons (by simpa using inside)]
    simp [absent, ih]
  | case3 index outside =>
    rw [List.drop_eq_nil_of_le (by simpa using outside)]
    rfl

/-- The last present child in the slots before an index. -/
def lastPresentBefore? (slots : Array (Option Nat)) : Nat → Option Nat
  | 0 => none
  | index + 1 =>
    match slots[index]? with
    | some (some child) => some child
    | _ => lastPresentBefore? slots index

theorem lastPresentBefore?_eq (slots : Array (Option Nat)) (index : Nat) :
    lastPresentBefore? slots index =
      (slots.toList.take index).reverse.findSome? fun slot => slot := by
  induction index with
  | zero => rfl
  | succ index ih =>
    rw [lastPresentBefore?, List.take_add_one, List.reverse_append, List.findSome?_append]
    cases found : slots[index]? with
    | none => simp [found, ih]
    | some slot => cases slot <;> simp [found, ih]

/-- The way from a node to its parent: the parent and the slot of the parent
that holds the node. -/
structure Link where
  parent : Nat
  slot : Nat
deriving DecidableEq, Repr

/-- Every child in a slot stands before its parent in the arena. -/
def ChildrenFirst (nodes : Array NodeData) : Prop :=
  ∀ (id : Nat) (data : NodeData) (child : Nat),
    nodes[id]? = some data → some child ∈ data.slots → child < id

/-- Enters the links of the children in the slots of one node. -/
def linkSlots (parent : Nat) (links : Array (Option Link))
    (slots : Array (Option Nat)) : Array (Option Link) :=
  slots.toList.zipIdx.foldl
    (fun links (slot, index) =>
      match slot with
      | some child => links.setIfInBounds child (some ⟨parent, index⟩)
      | none => links)
    links

/-- The links of all nodes of an arena. -/
def linksOf (nodes : Array NodeData) : Array (Option Link) :=
  nodes.toList.zipIdx.foldl
    (fun links (data, id) => linkSlots id links data.slots)
    (Array.replicate nodes.size none)

/-- A frozen syntax tree. -/
structure Tree where
  nodes : Array NodeData
  links : Array (Option Link)
  root : Nat
  childrenFirst : ChildrenFirst nodes
  linked : links = linksOf nodes
  rooted : root < nodes.size

/-- A leaf with its text and position. -/
structure Token where
  id : Nat
  kind : Kind
  text : String
  position : Position
deriving DecidableEq, Repr

/-- The column just behind a token, as if it did not span lines; it stays at
the largest column for a token that reaches beyond it. -/
def Token.endColumn (token : Token) : UInt32 :=
  UInt32.ofNat (min (token.position.column.toNat + token.text.length) (UInt32.size - 1))

namespace Tree

def size (tree : Tree) : Nat :=
  tree.nodes.size

def contains (tree : Tree) (id : Nat) : Bool :=
  id < tree.size

/-- The index itself, if it names a node of the tree. -/
def node? (tree : Tree) (id : Nat) : Option Nat :=
  if tree.contains id then some id else none

def kind (tree : Tree) (id : Nat) : Kind :=
  match tree.nodes[id]? with
  | some data => data.kind
  | none => .unknown

/-- The slots of a node in order, absent ones included. -/
def slots (tree : Tree) (id : Nat) : Array (Option Nat) :=
  match tree.nodes[id]? with
  | some data => data.slots
  | none => #[]

def children (tree : Tree) (id : Nat) : List Nat :=
  (tree.slots id).toList.filterMap fun slot => slot

def token? (tree : Tree) (id : Nat) : Option Token :=
  match tree.nodes[id]? with
  | some (.token kind text position) => some ⟨id, kind, text, position⟩
  | _ => none

def isToken (tree : Tree) (id : Nat) : Bool :=
  (tree.token? id).isSome

/-- The node as a token, for the sake of a property that only tokens have. -/
def demandToken (tree : Tree) (id : Nat) (property : String) : Except Error Token :=
  match tree.token? id with
  | some token => .ok token
  | none => .error (.notAToken (tree.kind id) property)

def text (tree : Tree) (id : Nat) : Except Error String :=
  (tree.demandToken id "text").map Token.text

def line (tree : Tree) (id : Nat) : Except Error UInt32 :=
  (tree.demandToken id "line").map fun token => token.position.line

def column (tree : Tree) (id : Nat) : Except Error UInt32 :=
  (tree.demandToken id "column").map fun token => token.position.column

def firstChild? (tree : Tree) (id : Nat) : Option Nat :=
  (tree.children id).head?

def lastChild? (tree : Tree) (id : Nat) : Option Nat :=
  (tree.children id).getLast?

def childOfKind? (tree : Tree) (id : Nat) (kind : Kind) : Option Nat :=
  (tree.children id).find? fun child => tree.kind child == kind

/-- The link of a node to its parent; the root has none. -/
def link? (tree : Tree) (id : Nat) : Option Link :=
  match tree.links[id]? with
  | some link => link
  | none => none

def parent? (tree : Tree) (id : Nat) : Option Nat :=
  (tree.link? id).map Link.parent

/-- The next present sibling; absent slots are passed over. -/
def nextSibling? (tree : Tree) (id : Nat) : Option Nat :=
  match tree.link? id with
  | some ⟨parent, slot⟩ => firstPresentFrom? (tree.slots parent) (slot + 1)
  | none => none

/-- The previous present sibling; absent slots are passed over. -/
def prevSibling? (tree : Tree) (id : Nat) : Option Nat :=
  match tree.link? id with
  | some ⟨parent, slot⟩ => lastPresentBefore? (tree.slots parent) slot
  | none => none

theorem kind_of_token {tree : Tree} {id : Nat} {token : Token}
    (isToken : tree.token? id = some token) : tree.kind id = token.kind := by
  unfold token? at isToken
  split at isToken
  · rename_i found
    cases isToken
    simp [kind, found, NodeData.kind]
  · simp at isToken

theorem slots_of_token {tree : Tree} {id : Nat} {token : Token}
    (isToken : tree.token? id = some token) : tree.slots id = #[] := by
  unfold token? at isToken
  split at isToken
  · rename_i found
    simp [slots, found, NodeData.slots]
  · simp at isToken

/-- A child of a node stands before the node. -/
theorem lt_of_mem_children {tree : Tree} {id child : Nat}
    (isChild : child ∈ tree.children id) : child < id := by
  unfold children slots at isChild
  split at isChild
  · rename_i data found
    simp only [List.mem_filterMap, exists_eq_right, Array.mem_toList_iff] at isChild
    exact tree.childrenFirst id data child found isChild
  · simp at isChild

end Tree

end TreeLint
