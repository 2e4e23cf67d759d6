import TreeLint.Violation

/-!
# Checks

A check names a rule and the kinds of nodes it wants to see.  Its hooks are
called at the start of a file, at every node of these kinds, when the walk
leaves such a node again, and at the end of the file.  A hook sees the tree,
the node and the state that the check keeps for the current file; it answers
with the new state and its findings, and it may give up with an error.
-/

namespace TreeLint

/-- The answer of a hook.  What was found before an error counts. -/
structure Outcome (σ : Type) where
  state : σ
  findings : List Finding := []
  failure : Option Error := none

/-- A rule with its hooks.  The states of all checks of a registry are of one
type `σ`, and each check has a state of its own. -/
structure Check (σ : Type) where
  rule : String
  name : String
  description : String
  kinds : List Kind
  visitFile : Tree → σ → Outcome σ := fun _ state => { state }
  visitNode : Tree → Nat → σ → Outcome σ
  leaveNode : Tree → Nat → σ → Outcome σ := fun _ _ state => { state }
  leaveFile : Tree → σ → Outcome σ := fun _ state => { state }

end TreeLint
