import TreeLint.Tree.Basic
import TreeLint.Text.Quoted

/-!
# Traversals of a tree

All traversals keep the nodes still to be visited on an explicit stack, so the
depth of a tree is bounded by memory alone.  They end because the number of
nodes below the stack shrinks with every step.
-/

namespace TreeLint

namespace Tree

def weight (tree : Tree) (id : Nat) : Nat :=
  1 + (tree.children id).attach.foldr (fun child total => tree.weight child.val + total) 0
termination_by id
decreasing_by exact lt_of_mem_children child.property

/-- The number of nodes below all nodes of a stack. -/
def stackWeight (tree : Tree) (stack : List Nat) : Nat :=
  stack.foldr (fun id total => tree.weight id + total) 0

theorem weight_eq (tree : Tree) (id : Nat) :
    tree.weight id = 1 + tree.stackWeight (tree.children id) := by
  rw [weight, stackWeight]
  exact congrArg (1 + ·)
    (List.foldr_attach (f := fun id total => tree.weight id + total))

@[simp]
theorem stackWeight_nil (tree : Tree) : tree.stackWeight [] = 0 := rfl

@[simp]
theorem stackWeight_cons (tree : Tree) (id : Nat) (rest : List Nat) :
    tree.stackWeight (id :: rest) = tree.weight id + tree.stackWeight rest := rfl

@[simp]
theorem stackWeight_append (tree : Tree) (first second : List Nat) :
    tree.stackWeight (first ++ second) = tree.stackWeight first + tree.stackWeight second := by
  induction first with
  | nil => simp
  | cons id rest ih => simp [ih, Nat.add_assoc]

@[simp]
theorem stackWeight_reverse (tree : Tree) (stack : List Nat) :
    tree.stackWeight stack.reverse = tree.stackWeight stack := by
  induction stack with
  | nil => rfl
  | cons id rest ih => simp [ih, Nat.add_comm]

/-- Visits the nodes of the stack and everything below them in pre-order. -/
def preorderFrom (tree : Tree) (stack : List Nat) (visited : Array Nat) :
    Array Nat :=
  match stack with
  | [] => visited
  | id :: rest => tree.preorderFrom (tree.children id ++ rest) (visited.push id)
termination_by tree.stackWeight stack
decreasing_by simp [weight_eq]

/-- The node and everything below it, in pre-order. -/
def descendants (tree : Tree) (id : Nat) : List Nat :=
  (tree.preorderFrom [id] #[]).toList

/-- Follows the links upwards for at most `fuel` steps. -/
def ancestorsFrom (tree : Tree) (id : Nat) : Nat → List Nat
  | 0 => []
  | fuel + 1 =>
    match tree.parent? id with
    | some parent => parent :: tree.ancestorsFrom parent fuel
    | none => []

/-- Parent, grandparent and so on up to the root.  No path is longer than the
number of nodes. -/
def ancestors (tree : Tree) (id : Nat) : List Nat :=
  tree.ancestorsFrom id tree.size

def tokens (tree : Tree) (id : Nat) : List Token :=
  (tree.descendants id).filterMap tree.token?

/-- Searches the stack from left to right for a token. -/
def firstTokenFrom (tree : Tree) (stack : List Nat) : Option Token :=
  match stack with
  | [] => none
  | id :: rest =>
    match tree.token? id with
    | some token => some token
    | none => tree.firstTokenFrom (tree.children id ++ rest)
termination_by tree.stackWeight stack
decreasing_by simp [weight_eq]

/-- Searches the stack from right to left for a token; the stack is held with
its last node first. -/
def lastTokenFrom (tree : Tree) (stack : List Nat) : Option Token :=
  match stack with
  | [] => none
  | id :: rest =>
    match tree.token? id with
    | some token => some token
    | none => tree.lastTokenFrom ((tree.children id).reverse ++ rest)
termination_by tree.stackWeight stack
decreasing_by simp [weight_eq]

def firstToken? (tree : Tree) (id : Nat) : Option Token :=
  tree.firstTokenFrom [id]

def lastToken? (tree : Tree) (id : Nat) : Option Token :=
  tree.lastTokenFrom [id]

def position? (tree : Tree) (id : Nat) : Option Position :=
  (tree.firstToken? id).map Token.position

/-- A node in diagnostic text: a token by its place and quoted text, a compound
node by its index. -/
def describe (tree : Tree) (id : Nat) : String :=
  match tree.token? id with
  | some token =>
    (tree.kind id).name ++ "@" ++ token.position.display ++ " " ++ Text.quote token.text
  | none => (tree.kind id).name ++ "#" ++ toString id

end Tree

end TreeLint
