import TreeLint.Tree.Builder
import TreeLint.Tree.Traversal

/-!
# Raw trees

A raw tree is the exchange form of a syntax tree: nested nodes without indices.
A node with text is a token, any other node is compound.  Subtrees are captured
as raw trees, and raw trees are turned back into frozen trees, which checks
that tokens have no children and know their place.  Both directions keep their
pending work on a stack of steps.
-/

namespace TreeLint

/-- A node in exchange form.  Absent slots are `none`. -/
inductive RawNode where
  | mk (kind : Kind) (children : List (Option RawNode)) (text : Option String)
      (line column : Option UInt32)

namespace RawNode

def kind : RawNode → Kind
  | .mk kind _ _ _ _ => kind

def children : RawNode → List (Option RawNode)
  | .mk _ children _ _ _ => children

def text : RawNode → Option String
  | .mk _ _ text _ _ => text

def line : RawNode → Option UInt32
  | .mk _ _ _ line _ => line

def column : RawNode → Option UInt32
  | .mk _ _ _ _ column => column

def token (kind : Kind) (text : String) (line column : UInt32) : RawNode :=
  .mk kind [] (some text) (some line) (some column)

def node (kind : Kind) (children : List (Option RawNode)) : RawNode :=
  .mk kind children none none none

instance : Inhabited RawNode := ⟨node .unknown []⟩

end RawNode

/-! ## Capturing subtrees -/

/-- The pending work of a capture. -/
inductive CaptureStep where
  /-- Capture what stands in a slot. -/
  | enter (slot : Option Nat)
  /-- Collect the last captured slots into a compound node. -/
  | close (kind : Kind) (arity : Nat)
deriving DecidableEq, Repr

namespace CaptureStep

/-- The nodes that the pending steps still enter. -/
def entered (steps : List CaptureStep) : List Nat :=
  steps.filterMap fun
    | .enter slot => slot
    | .close _ _ => none

@[simp]
theorem entered_absent (rest : List CaptureStep) :
    entered (.enter none :: rest) = entered rest := rfl

@[simp]
theorem entered_present (id : Nat) (rest : List CaptureStep) :
    entered (.enter (some id) :: rest) = id :: entered rest := rfl

@[simp]
theorem entered_close (kind : Kind) (arity : Nat) (rest : List CaptureStep) :
    entered (.close kind arity :: rest) = entered rest := rfl

@[simp]
theorem entered_append (first second : List CaptureStep) :
    entered (first ++ second) = entered first ++ entered second := by
  simp [entered]

@[simp]
theorem entered_slots (tree : Tree) (id : Nat) :
    entered ((tree.slots id).toList.map .enter) = tree.children id := by
  rw [entered, Tree.children, List.filterMap_map]
  rfl

end CaptureStep

namespace Tree

/-- Works off the pending steps.  The captured slots are held with the last one
first. -/
def captureFrom (tree : Tree) (steps : List CaptureStep) (done : List (Option RawNode)) :
    List (Option RawNode) :=
  match steps with
  | [] => done
  | .enter none :: rest => tree.captureFrom rest (none :: done)
  | .enter (some id) :: rest =>
    match tree.token? id with
    | some token =>
      tree.captureFrom rest
        (some (.token token.kind token.text token.position.line token.position.column) :: done)
    | none =>
      let slots := (tree.slots id).toList
      tree.captureFrom
        (slots.map .enter ++ .close (tree.kind id) slots.length :: rest) done
  | .close kind arity :: rest =>
    tree.captureFrom rest (some (.node kind (done.take arity).reverse) :: done.drop arity)
termination_by (tree.stackWeight (CaptureStep.entered steps), steps.length)
decreasing_by
  · simp [Prod.lex_def]
  · have unfolded := tree.weight_eq id
    simp only [CaptureStep.entered_present, stackWeight_cons, Prod.lex_def]
    omega
  · have unfolded := tree.weight_eq id
    simp only [CaptureStep.entered_append, CaptureStep.entered_slots,
      CaptureStep.entered_close, CaptureStep.entered_present, stackWeight_append,
      stackWeight_cons, Prod.lex_def]
    omega
  · simp [Prod.lex_def]

/-- The subtree of a node in exchange form. -/
def capture (tree : Tree) (id : Nat) : RawNode :=
  match tree.captureFrom [.enter (some id)] [] with
  | some raw :: _ => raw
  | _ => .node (tree.kind id) []

end Tree

/-! ## Freezing raw trees -/

namespace RawNode

mutual

def count : RawNode → Nat
  | .mk _ children _ _ _ => countSlots children + 1

def countSlots : List (Option RawNode) → Nat
  | [] => 0
  | none :: rest => countSlots rest
  | some raw :: rest => raw.count + countSlots rest

end

/-- The pending work of freezing a raw tree. -/
inductive BuildStep where
  /-- Add what stands in a slot. -/
  | enter (slot : Option RawNode)
  /-- Close the innermost open node. -/
  | close

def BuildStep.enterAll (slots : List (Option RawNode)) : List BuildStep :=
  slots.map .enter

/-- The slots that the pending steps still enter. -/
def BuildStep.entered (steps : List BuildStep) : List (Option RawNode) :=
  steps.filterMap fun
    | .enter slot => some slot
    | .close => none

theorem countSlots_append (first second : List (Option RawNode)) :
    countSlots (first ++ second) = countSlots first + countSlots second := by
  induction first with
  | nil => simp [countSlots]
  | cons slot rest inductionHypothesis =>
    cases slot with
    | none => simpa [countSlots] using inductionHypothesis
    | some raw =>
      simp only [List.cons_append, countSlots, inductionHypothesis]
      omega

@[simp]
theorem BuildStep.entered_enterAll (slots : List (Option RawNode)) :
    BuildStep.entered (BuildStep.enterAll slots) = slots := by
  rw [BuildStep.entered, BuildStep.enterAll, List.filterMap_map]
  exact List.filterMap_some

@[simp]
theorem BuildStep.entered_enter (slot : Option RawNode) (rest : List BuildStep) :
    BuildStep.entered (.enter slot :: rest) = slot :: BuildStep.entered rest := rfl

@[simp]
theorem BuildStep.entered_close (rest : List BuildStep) :
    BuildStep.entered (.close :: rest) = BuildStep.entered rest := rfl

@[simp]
theorem BuildStep.entered_append (first second : List BuildStep) :
    BuildStep.entered (first ++ second) =
      BuildStep.entered first ++ BuildStep.entered second := by
  simp [BuildStep.entered]

/-- Works off the pending steps on a builder.  A node with text must be a
proper token; the first node in pre-order that is not decides. -/
def buildFrom (steps : List BuildStep) (builder : Builder) : Except Error Builder :=
  match steps with
  | [] => .ok builder
  | .close :: rest =>
    match builder.finishNode with
    | (.ok _, builder) => buildFrom rest builder
    | (.error error, _) => .error error
  | .enter none :: rest =>
    match builder.missing with
    | (.ok _, builder) => buildFrom rest builder
    | (.error error, _) => .error error
  | .enter (some (.mk kind children (some text) line column)) :: rest =>
    if !children.isEmpty then .error (.malformedTree (.tokenWithChildren text kind))
    else
      match line, column with
      | some line, some column => buildFrom rest (builder.token kind text line column).2
      | _, _ => .error (.malformedTree (.tokenWithoutPosition text kind))
  | .enter (some (.mk kind children none _ _)) :: rest =>
    buildFrom (BuildStep.enterAll children ++ .close :: rest) (builder.startNode kind)
termination_by (countSlots (BuildStep.entered steps), steps.length)
decreasing_by
  · simp [Prod.lex_def]
  · simp [Prod.lex_def, countSlots]
  · simp only [BuildStep.entered_enter, countSlots, count, Prod.lex_def]
    omega
  · simp only [BuildStep.entered_enter, BuildStep.entered_append, BuildStep.entered_enterAll,
      BuildStep.entered_close, countSlots_append, countSlots, count, Prod.lex_def]
    omega

/-- Freezes a raw tree. -/
def toTree (raw : RawNode) : Except Error Tree :=
  match buildFrom [.enter (some raw)] .empty with
  | .ok builder => builder.finish
  | .error error => .error error

end RawNode

end TreeLint
