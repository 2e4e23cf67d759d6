import TreeLint.Tree.Raw
import TreeLint.Json.Reader

/-!
# Trees from JSON

A node is written as an object with the members `kind`, `children`, `text`,
`line` and `column`, or as an array of these in this order.  Only the kind is
required; a name outside the vocabulary stands for the unknown kind.  Reading
keeps the children lists that it is inside of on an explicit stack, goes
through the text from left to right and stops at the first objection.
-/

namespace TreeLint

open Json

/-- The fields of a node in exchange form. -/
inductive NodeField where
  | kind
  | children
  | text
  | line
  | column
deriving DecidableEq, Repr

namespace NodeField

def name : NodeField → String
  | .kind => "kind"
  | .children => "children"
  | .text => "text"
  | .line => "line"
  | .column => "column"

/-- The order of the fields in an array. -/
def all : List NodeField :=
  [.kind, .children, .text, .line, .column]

def ofName? (name : String) : Option NodeField :=
  all.find? fun field => field.name == name

end NodeField

/-- A node of which some fields have been read. -/
structure NodeDraft where
  kind : Option Kind := none
  children : Option (List (Option RawNode)) := none
  text : Option (Option String) := none
  line : Option (Option UInt32) := none
  column : Option (Option UInt32) := none

namespace NodeDraft

def has (draft : NodeDraft) : NodeField → Bool
  | .kind => draft.kind.isSome
  | .children => draft.children.isSome
  | .text => draft.text.isSome
  | .line => draft.line.isSome
  | .column => draft.column.isSome

/-- Reads a field other than the children, whose items are read one by one. -/
def assign (draft : NodeDraft) (field : NodeField) (value : Value) :
    Except Fault NodeDraft :=
  match field with
  | .kind =>
    value.readText.map fun name => { draft with kind := some (Kind.ofName name) }
  | .children => .error (value.unexpected "a sequence")
  | .text =>
    (value.readOptional Value.readText).map fun text => { draft with text := some text }
  | .line =>
    (value.readOptional Value.readWord).map fun line => { draft with line := some line }
  | .column =>
    (value.readOptional Value.readWord).map fun column =>
      { draft with column := some column }

/-- The node, once its kind is known. -/
def node? (draft : NodeDraft) : Option RawNode :=
  draft.kind.map fun kind =>
    .mk kind (draft.children.getD []) (draft.text.getD none) (draft.line.getD none)
      (draft.column.getD none)

end NodeDraft

/-- A node under construction with what is left of its text. -/
inductive NodeSource where
  | object (draft : NodeDraft) (rest : List Member) (intact : Bool)
  | row (draft : NodeDraft) (fields : List NodeField) (rest : List Value) (intact : Bool)

namespace NodeSource

def setChildren (children : List (Option RawNode)) : NodeSource → NodeSource
  | .object draft rest intact => .object { draft with children := some children } rest intact
  | .row draft fields rest intact =>
    .row { draft with children := some children } fields rest intact

/-- The size of what is left to read. -/
noncomputable def remaining : NodeSource → Nat
  | .object _ rest _ => 1 + sizeOf rest
  | .row _ _ rest _ => 1 + sizeOf rest

@[simp]
theorem remaining_setChildren (children : List (Option RawNode)) (source : NodeSource) :
    (source.setChildren children).remaining = source.remaining := by
  cases source <;> rfl

end NodeSource

/-- A list of children that is being read: the node it belongs to, the slots
read so far (last first) and what is left of it. -/
structure OpenList where
  owner : NodeSource
  done : List (Option RawNode)
  rest : List Value
  intact : Bool

/-- The size of what is left to read of a list and its node. -/
noncomputable def OpenList.remaining (list : OpenList) : Nat :=
  list.owner.remaining + sizeOf list.rest

/-- Where the reading of a tree stands. -/
inductive NodeReading where
  /-- A node has to be read from a value. -/
  | readNode (value : Value)
  /-- The remaining fields of a node have to be read. -/
  | readFields (source : NodeSource)
  /-- The remaining children of a node have to be read. -/
  | readChildren (list : OpenList)
  /-- A node has been read. -/
  | complete (node : RawNode)

namespace NodeReading

/-- The size of what is left to read. -/
noncomputable def remaining : NodeReading → Nat
  | .readNode value => sizeOf value
  | .readFields source => source.remaining
  | .readChildren list => list.remaining
  | .complete _ => 1

/-- The size of what is left to read of all lists on the stack. -/
noncomputable def stackRemaining (stack : List OpenList) : Nat :=
  stack.foldr (fun list total => list.remaining + total) 0

@[simp]
theorem stackRemaining_cons (list : OpenList) (stack : List OpenList) :
    stackRemaining (list :: stack) = list.remaining + stackRemaining stack := rfl

/-- Starts a field of a node: a list of children is opened, any other field is
read at once. -/
def startField (draft : NodeDraft) (field : NodeField) (value : Value)
    (source : NodeDraft → NodeSource) : Except Fault NodeReading :=
  match field, value with
  | .children, .array items intact => .ok (.readChildren ⟨source draft, [], items, intact⟩)
  | field, value => (draft.assign field value).map fun draft => .readFields (source draft)

/-- Goes on with the fields of a node. -/
def readField : NodeSource → Except Fault NodeReading
  | .object draft [] intact =>
    if intact then
      match draft.node? with
      | some node => .ok (.complete node)
      | none => .error (.missingField "kind")
    else .error .malformed
  | .object draft (.named (some key) value :: rest) intact =>
    match NodeField.ofName? key with
    | some field =>
      if draft.has field then .error (.duplicateField key)
      else startField draft field value fun draft => .object draft rest intact
    | none =>
      if value.intact then .ok (.readFields (.object draft rest intact))
      else .error .malformed
  | .object _ (_ :: _) _ => .error .malformed
  | .row draft _ [] intact =>
    if intact then
      match draft.node? with
      | some node => .ok (.complete node)
      | none => .error (.invalidLength 0 "RawNode" 5)
    else .error .malformed
  | .row _ [] (_ :: _) _ => .error .malformed
  | .row draft (field :: fields) (value :: rest) intact =>
    startField draft field value fun draft => .row draft fields rest intact

theorem startField_remaining (bound : Nat) {draft : NodeDraft} {field : NodeField}
    {value : Value} {source : NodeDraft → NodeSource} {next : NodeReading}
    (started : startField draft field value source = .ok next)
    (bounded : ∀ draft, (source draft).remaining ≤ bound) :
    next.remaining < bound + sizeOf value := by
  have positive : 0 < sizeOf value := by cases value <;> simp +arith
  unfold startField at started
  split at started
  · rename_i items intact
    cases started
    have sourceBound := bounded draft
    simp only [remaining, OpenList.remaining, Value.array.sizeOf_spec]
    omega
  · simp only [Except.map] at started
    split at started
    · simp at started
    · rename_i assigned _
      cases started
      have sourceBound := bounded assigned
      simp only [remaining]
      omega

/-- Reading a field leaves less to read. -/
theorem readField_remaining {source : NodeSource} {next : NodeReading}
    (advanced : readField source = .ok next) : next.remaining < source.remaining := by
  unfold readField at advanced
  split at advanced
  · split at advanced
    · split at advanced
      · cases advanced
        simp [remaining, NodeSource.remaining]
      · simp at advanced
    · simp at advanced
  · split at advanced
    · split at advanced
      · simp at advanced
      · rename_i rest intact _ _ _ _
        have bound := startField_remaining (1 + sizeOf rest) advanced
          (fun draft => by simp [NodeSource.remaining])
        simp only [NodeSource.remaining, List.cons.sizeOf_spec, Member.named.sizeOf_spec]
        omega
    · split at advanced
      · cases advanced
        simp only [remaining, NodeSource.remaining, List.cons.sizeOf_spec,
          Member.named.sizeOf_spec]
        omega
      · simp at advanced
  · simp at advanced
  · split at advanced
    · split at advanced
      · cases advanced
        simp [remaining, NodeSource.remaining]
      · simp at advanced
    · simp at advanced
  · simp at advanced
  · rename_i rest intact
    have bound := startField_remaining (1 + sizeOf rest) advanced
      (fun draft => by simp [NodeSource.remaining])
    simp only [NodeSource.remaining, List.cons.sizeOf_spec]
    omega

/-- Reads a node to its end.  The stack holds the lists of children that are
open around it, innermost first. -/
def run (reading : NodeReading) (stack : List OpenList) : Except Fault RawNode :=
  match reading with
  | .readNode (.object members intact) => run (.readFields (.object {} members intact)) stack
  | .readNode (.array items intact) =>
    run (.readFields (.row {} NodeField.all items intact)) stack
  | .readNode value => .error (value.unexpected "struct RawNode")
  | .readFields source =>
    match _advanced : readField source with
    | .ok next => run next stack
    | .error fault => .error fault
  | .readChildren ⟨owner, done, [], intact⟩ =>
    if intact then run (.readFields (owner.setChildren done.reverse)) stack
    else .error .malformed
  | .readChildren ⟨owner, done, .null :: rest, intact⟩ =>
    run (.readChildren ⟨owner, none :: done, rest, intact⟩) stack
  | .readChildren ⟨owner, done, value :: rest, intact⟩ =>
    run (.readNode value) (⟨owner, done, rest, intact⟩ :: stack)
  | .complete node =>
    match stack with
    | [] => .ok node
    | ⟨owner, done, rest, intact⟩ :: outer =>
      run (.readChildren ⟨owner, some node :: done, rest, intact⟩) outer
termination_by reading.remaining + stackRemaining stack
decreasing_by
  · simp +arith [remaining, NodeSource.remaining]
  · simp +arith [remaining, NodeSource.remaining]
  · have bound := readField_remaining _advanced
    simp only [remaining] at bound ⊢
    omega
  · simp +arith [remaining, OpenList.remaining]
  · simp +arith [remaining, OpenList.remaining]
  · simp +arith [remaining, OpenList.remaining]
  · simp +arith [remaining, OpenList.remaining]

end NodeReading

namespace RawNode

def ofValue (value : Value) : Except Fault RawNode :=
  NodeReading.run (.readNode value) []

def ofJson (text : String) : Except Fault RawNode :=
  readDocument ofValue text

end RawNode

def Tree.ofJson (text : String) : Except Error Tree :=
  match RawNode.ofJson text with
  | .ok raw => raw.toTree
  | .error fault => .error (.input fault)

end TreeLint
