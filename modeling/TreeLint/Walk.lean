import TreeLint.Registry

/-!
# Walking a tree with its checks

One pass over a tree in pre-order calls the checks of a registry.  Every node
is entered once, and left once after everything below it.  The walk keeps its
pending steps on a stack; a step for leaving a node is only kept when some
check listens to the kind of the node.  The first error of a hook stops the
walk, and what was reported before it stays reported.
-/

namespace TreeLint

/-- What a walk has gathered so far. -/
structure Walk (σ : Type) where
  /-- The state of each check, by its number. -/
  states : Array σ
  /-- The violations reported, oldest first. -/
  sink : Array Violation
  nodes : Nat
  invocations : Nat

/-- A walk that was stopped, with what it had gathered. -/
structure StoppedWalk (σ : Type) where
  error : Error
  walk : Walk σ

namespace Walk

variable {σ : Type}

def start (registry : Registry σ) (fresh : σ) (sink : Array Violation) : Walk σ where
  states := Array.replicate registry.size fresh
  sink := sink
  nodes := 0
  invocations := 0

def countNode (walk : Walk σ) : Walk σ :=
  { walk with nodes := walk.nodes + 1 }

def countInvocation (walk : Walk σ) : Walk σ :=
  { walk with invocations := walk.invocations + 1 }

/-- Calls one hook of a check on the state of that check, and files its findings
under its rule. -/
def call (tree : Tree) (id : Nat) (check : Check σ) (hook : σ → Outcome σ)
    (walk : Walk σ) : Except (StoppedWalk σ) (Walk σ) :=
  match walk.states[id]? with
  | none => .ok walk
  | some state =>
    let outcome := hook state
    let violations := outcome.findings.map (Violation.ofFinding tree check.rule)
    let called :=
      { walk with
        states := walk.states.setIfInBounds id outcome.state
        sink := walk.sink ++ violations }
    match outcome.failure with
    | some error => .error ⟨error, called⟩
    | none => .ok called

def callAll (tree : Tree) (hook : Check σ → σ → Outcome σ) :
    List (Nat × Check σ) → Walk σ → Except (StoppedWalk σ) (Walk σ)
  | [], walk => .ok walk
  | (id, check) :: rest, walk =>
    match walk.call tree id check (hook check) with
    | .ok walk => callAll tree hook rest walk
    | .error stopped => .error stopped

/-- Calls a node hook of each of the checks in turn and counts the calls. -/
def callEach (tree : Tree) (hook : Check σ → σ → Outcome σ) :
    List (Nat × Check σ) → Walk σ → Except (StoppedWalk σ) (Walk σ)
  | [], walk => .ok walk
  | (id, check) :: rest, walk =>
    match walk.countInvocation.call tree id check (hook check) with
    | .ok walk => callEach tree hook rest walk
    | .error stopped => .error stopped

end Walk

inductive WalkStep where
  | enter (id : Nat)
  | leave (id : Nat)
deriving DecidableEq, Repr

namespace WalkStep

/-- The nodes that the pending steps still enter. -/
def entered (steps : List WalkStep) : List Nat :=
  steps.filterMap fun
    | .enter id => some id
    | .leave _ => none

@[simp]
theorem entered_enter (id : Nat) (rest : List WalkStep) :
    entered (.enter id :: rest) = id :: entered rest := rfl

@[simp]
theorem entered_leave (id : Nat) (rest : List WalkStep) :
    entered (.leave id :: rest) = entered rest := rfl

@[simp]
theorem entered_append (first second : List WalkStep) :
    entered (first ++ second) = entered first ++ entered second := by
  simp [entered]

@[simp]
theorem entered_map_enter (ids : List Nat) : entered (ids.map .enter) = ids := by
  rw [entered, List.filterMap_map]
  exact List.filterMap_some

/-- The step of leaving a node, if any check listens to its kind. -/
def leaving {σ : Type} (registry : Registry σ) (tree : Tree) (id : Nat) : List WalkStep :=
  if registry.isSubscribed (tree.kind id) then [.leave id] else []

@[simp]
theorem entered_leaving {σ : Type} (registry : Registry σ) (tree : Tree) (id : Nat) :
    entered (leaving registry tree id) = [] := by
  unfold leaving
  split <;> rfl

end WalkStep

namespace Registry

variable {σ : Type}

/-- Works off the pending steps of a walk. -/
def walkFrom (registry : Registry σ) (tree : Tree) (steps : List WalkStep)
    (walk : Walk σ) : Except (StoppedWalk σ) (Walk σ) :=
  match steps with
  | [] => .ok walk
  | .enter id :: rest =>
    match walk.countNode.callEach tree (fun check => check.visitNode tree id)
      (registry.checksFor (tree.kind id)) with
    | .error stopped => .error stopped
    | .ok walk =>
      registry.walkFrom tree
        ((tree.children id).map .enter ++ WalkStep.leaving registry tree id ++ rest) walk
  | .leave id :: rest =>
    match walk.callEach tree (fun check => check.leaveNode tree id)
      (registry.checksFor (tree.kind id)) with
    | .error stopped => .error stopped
    | .ok walk => registry.walkFrom tree rest walk
termination_by (tree.stackWeight (WalkStep.entered steps), steps.length)
decreasing_by
  · have unfolded := tree.weight_eq id
    simp only [WalkStep.entered_append, WalkStep.entered_map_enter,
      WalkStep.entered_leaving, WalkStep.entered_enter, Tree.stackWeight_append,
      Tree.stackWeight_cons, Tree.stackWeight_nil, Prod.lex_def]
    omega
  · simp [Prod.lex_def]

/-- Walks a tree with all checks of the registry, their states starting from
`fresh`, and reports behind what the sink holds. -/
def run (registry : Registry σ) (fresh : σ) (tree : Tree) (sink : Array Violation) :
    Except (StoppedWalk σ) (Walk σ) := do
  let walk ← (Walk.start registry fresh sink).callAll tree
    (fun check => check.visitFile tree) registry.entries
  let walk ← registry.walkFrom tree [.enter tree.root] walk
  walk.callAll tree (fun check => check.leaveFile tree) registry.entries

/-- Everything that the checks of the registry report about a tree. -/
def analyze (registry : Registry σ) (fresh : σ) (tree : Tree) :
    Except Error (List Violation) :=
  match registry.run fresh tree #[] with
  | .ok walk => .ok walk.sink.toList
  | .error stopped => .error stopped.error

end Registry

end TreeLint
