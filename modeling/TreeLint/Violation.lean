import TreeLint.Message
import TreeLint.Tree.Traversal
import TreeLint.Json.Reader

/-!
# Violations

A violation is what a check reports: the rule, a finished message with the
parameters it was made from, and the node it is attached to together with the
position of that node's first token.
-/

namespace TreeLint

open Json

structure Violation where
  rule : String
  message : String
  parameters : List String
  anchor : Nat
  position : Option Position
deriving DecidableEq, Repr

/-- What a check has to say about a node, before the rule is known. -/
structure Finding where
  anchor : Nat
  template : String
  parameters : List String
deriving DecidableEq, Repr

namespace Violation

/-- The violation of a rule for a finding in a tree. -/
def ofFinding (tree : Tree) (rule : String) (finding : Finding) : Violation where
  rule := rule
  message := Message.format finding.template finding.parameters
  parameters := finding.parameters
  anchor := finding.anchor
  position := tree.position? finding.anchor

def line? (violation : Violation) : Option UInt32 :=
  violation.position.map Position.line

/-- One line for a reader: place, rule and message. -/
def display (violation : Violation) : String :=
  match violation.position with
  | some position =>
    position.display ++ " [" ++ violation.rule ++ "] " ++ violation.message
  | none => "[" ++ violation.rule ++ "] " ++ violation.message

structure PositionDraft where
  line : Option UInt32 := none
  column : Option UInt32 := none

def positionRecord : Record PositionDraft Position where
  name := "Position"
  fields := ["line", "column"]
  required := 2
  empty := {}
  assign field value draft :=
    match field with
    | "line" => value.readWord.map fun line => { draft with line := some line }
    | _ => value.readWord.map fun column => { draft with column := some column }
  close draft := do
    let line ← Record.demand "line" draft.line
    let column ← Record.demand "column" draft.column
    return ⟨line, column⟩

structure Draft where
  rule : Option String := none
  message : Option String := none
  parameters : Option (List String) := none
  anchor : Option Nat := none
  position : Option Position := none

def record : Record Draft Violation where
  name := "Violation"
  fields := ["rule_key", "message", "parameters", "anchor", "position"]
  required := 5
  empty := {}
  assign field value draft :=
    match field with
    | "rule_key" => value.readText.map fun rule => { draft with rule := some rule }
    | "message" => value.readText.map fun message => { draft with message := some message }
    | "parameters" =>
      (value.readList Value.readText).map fun parameters =>
        { draft with parameters := some parameters }
    | "anchor" =>
      value.readWord.map fun anchor => { draft with anchor := some anchor.toNat }
    | _ =>
      (value.readOptional positionRecord.read).map fun position =>
        { draft with position := position }
  close draft := do
    let rule ← Record.demand "rule_key" draft.rule
    let message ← Record.demand "message" draft.message
    let parameters ← Record.demand "parameters" draft.parameters
    let anchor ← Record.demand "anchor" draft.anchor
    return ⟨rule, message, parameters, anchor, draft.position⟩

def ofJson (text : String) : Except Fault Violation :=
  readDocument record.read text

end Violation

end TreeLint
