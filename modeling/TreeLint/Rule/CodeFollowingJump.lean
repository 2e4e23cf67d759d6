import TreeLint.Check

/-!
# Code behind a jump

A statement that directly follows a `break`, `return`, `continue` or `throw`
statement can never run.  Statement lists wrap each concrete statement, so the
rule looks at the sibling behind the parent of the jump.
-/

namespace TreeLint

namespace CodeFollowingJump

def ruleKey : String := "correctness/code-following-jump"

/-- The statements after which control does not continue. -/
def jumpKinds : List Kind :=
  [.breakStatement, .returnStatement, .continueStatement, .throwStatement]

def template : String := "Remove the code after this \"\x7b0\x7d\"."

/-- The statement wrapper directly behind the parent of a jump. -/
def following? (tree : Tree) (jump : Nat) : Option Nat :=
  match tree.parent? jump with
  | none => none
  | some wrapper =>
    match tree.nextSibling? wrapper with
    | none => none
    | some next => if (tree.kind next).isStatement then some next else none

/-- Reports the statement behind a jump, quoting the keyword of the jump. -/
def visit {σ : Type} (tree : Tree) (jump : Nat) (state : σ) : Outcome σ :=
  match following? tree jump with
  | none => { state }
  | some next =>
    match tree.firstToken? jump with
    | none => { state, failure := some (.malformedTree (.noKeyword (tree.kind jump))) }
    | some keyword =>
      { state, findings := [⟨next, template, [keyword.text]⟩] }

end CodeFollowingJump

/-- The check for code behind a jump.  It keeps no state. -/
def codeFollowingJump (σ : Type) : Check σ where
  rule := CodeFollowingJump.ruleKey
  name := "Jump statements should not be followed by other statements"
  description :=
    "Statements placed right after break, return, continue or throw can never run"
  kinds := CodeFollowingJump.jumpKinds
  visitNode := CodeFollowingJump.visit

end TreeLint
