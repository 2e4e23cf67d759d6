import Mathlib.Logic.Function.Basic
import TreeLint.Walk

/-!
# The walk as a recursion over the tree

A walk keeps its pending steps on a stack.  This module states what it means
as a plain recursion: the file hooks of all checks, then for each node the
entering hooks, the children from left to right and the leaving hooks, then
the closing file hooks.  A session is what such a recursion works on; its
actions stop at the first error and keep everything done before it.

The stack of pending steps stands for the recursions still to be made, in
order.  This is the invariant of the walk, and the agreement of both
descriptions on every tree, registry and point of failure follows from it.
-/

namespace TreeLint

/-- What the checks have done so far: the state in the slot of each check, the
violations reported and the counts of nodes and of calls made for nodes. -/
structure Session (σ : Type) where
  slot : Nat → σ
  sink : List Violation
  nodes : Nat
  invocations : Nat

namespace Session

variable {σ : Type}

/-- A computation on a session.  An error ends it and leaves the session as it
was at that moment. -/
abbrev Action (σ : Type) := ExceptT Error (StateM (Session σ))

/-- Every check starts with a fresh state. -/
def start (fresh : σ) (sink : List Violation) : Session σ where
  slot _ := fresh
  sink := sink
  nodes := 0
  invocations := 0

/-- The session after a hook of the check with a number has answered. -/
def record (session : Session σ) (tree : Tree) (number : Nat) (rule : String)
    (outcome : Outcome σ) : Session σ :=
  { session with
    slot := Function.update session.slot number outcome.state
    sink := session.sink ++ outcome.findings.map (Violation.ofFinding tree rule) }

/-- Runs a hook of the check with a number on the state in its slot. -/
def invoke (tree : Tree) (number : Nat) (check : Check σ) (hook : σ → Outcome σ) :
    Action σ Unit := do
  let session ← get
  let outcome := hook (session.slot number)
  set (session.record tree number check.rule outcome)
  match outcome.failure with
  | some error => throw error
  | none => pure ()

/-- Runs a file hook of each check. -/
def fileHooks (tree : Tree) (hook : Check σ → σ → Outcome σ)
    (checks : List (Nat × Check σ)) : Action σ Unit :=
  checks.forM fun (number, check) => invoke tree number check (hook check)

/-- Runs a node hook of each check, counting the calls. -/
def nodeHooks (tree : Tree) (hook : Check σ → σ → Outcome σ)
    (checks : List (Nat × Check σ)) : Action σ Unit :=
  checks.forM fun (number, check) => do
    modify fun session => { session with invocations := session.invocations + 1 }
    invoke tree number check (hook check)

/-- Enters a node for the checks that listen to its kind. -/
def enterNode (registry : Registry σ) (tree : Tree) (id : Nat) : Action σ Unit := do
  modify fun session => { session with nodes := session.nodes + 1 }
  nodeHooks tree (fun check => check.visitNode tree id) (registry.checksFor (tree.kind id))

/-- Leaves a node for the checks that listen to its kind. -/
def leaveNode (registry : Registry σ) (tree : Tree) (id : Nat) : Action σ Unit :=
  nodeHooks tree (fun check => check.leaveNode tree id) (registry.checksFor (tree.kind id))

/-- Walks the subtree of a node: the node is entered, its present children are
walked from left to right, and the node is left. -/
def walkNode (registry : Registry σ) (tree : Tree) (id : Nat) : Action σ Unit := do
  enterNode registry tree id
  (tree.children id).attach.forM fun child => walkNode registry tree child.val
  leaveNode registry tree id
termination_by id
decreasing_by exact Tree.lt_of_mem_children child.property

/-- Analyzes a file: the hooks before the file, the walk from the root, the
hooks after the file. -/
def walkFile (registry : Registry σ) (tree : Tree) : Action σ Unit := do
  fileHooks tree (fun check => check.visitFile tree) registry.entries
  walkNode registry tree tree.root
  fileHooks tree (fun check => check.leaveFile tree) registry.entries

theorem walkNode_eq (registry : Registry σ) (tree : Tree) (id : Nat) :
    walkNode registry tree id = (do
      enterNode registry tree id
      (tree.children id).forM (walkNode registry tree)
      leaveNode registry tree id) := by
  have children : (tree.children id).attach.forM
      (fun child => walkNode registry tree child.val) =
        (tree.children id).forM (walkNode registry tree) := by
    calc
      _ = ((tree.children id).attach.map Subtype.val).forM (walkNode registry tree) :=
        List.forM_map.symm
      _ = _ := by rw [List.attach_map_subtype_val]
  rw [walkNode, children]

/-- What the recursion makes of a session: its answer, and the session it ends
with. -/
def after (session : Session σ) (action : Action σ Unit) :
    Except Error Unit × Session σ :=
  action.run.run session

@[simp]
theorem after_pure (session : Session σ) :
    session.after (pure ()) = (.ok (), session) := rfl

theorem after_bind (session : Session σ) (first : Action σ Unit)
    (second : Unit → Action σ Unit) :
    session.after (first >>= second) =
      match session.after first with
      | (.ok _, next) => next.after (second ())
      | (.error error, last) => (.error error, last) := by
  unfold after
  rw [ExceptT.run_bind, StateT.run_bind]
  cases first.run.run session with
  | mk answer next => cases answer <;> rfl

theorem after_invoke (session : Session σ) (tree : Tree) (number : Nat)
    (check : Check σ) (hook : σ → Outcome σ) :
    session.after (invoke tree number check hook) =
      ((match (hook (session.slot number)).failure with
        | some error => .error error
        | none => .ok ()),
        session.record tree number check.rule (hook (session.slot number))) := by
  change (session.record tree number check.rule (hook (session.slot number))).after
    (match (hook (session.slot number)).failure with
      | some error => throw error
      | none => pure ()) = _
  cases (hook (session.slot number)).failure <;> rfl

end Session

/-! ## Walks and sessions side by side -/

namespace Walk

variable {σ : Type}

theorem callAll_cons (tree : Tree) (hook : Check σ → σ → Outcome σ) (number : Nat)
    (check : Check σ) (rest : List (Nat × Check σ)) (walk : Walk σ) :
    callAll tree hook ((number, check) :: rest) walk =
      walk.call tree number check (hook check) >>= callAll tree hook rest := by
  rw [callAll]
  cases walk.call tree number check (hook check) <;> rfl

theorem callEach_cons (tree : Tree) (hook : Check σ → σ → Outcome σ) (number : Nat)
    (check : Check σ) (rest : List (Nat × Check σ)) (walk : Walk σ) :
    callEach tree hook ((number, check) :: rest) walk =
      walk.countInvocation.call tree number check (hook check) >>=
        callEach tree hook rest := by
  rw [callEach]
  cases walk.countInvocation.call tree number check (hook check) <;> rfl

end Walk

/-- A walk with `count` checks and a session have done the same. -/
structure Mirrors {σ : Type} (count : Nat) (walk : Walk σ) (session : Session σ) : Prop where
  states : ∀ number < count, walk.states[number]? = some (session.slot number)
  sink : walk.sink.toList = session.sink
  nodes : walk.nodes = session.nodes
  invocations : walk.invocations = session.invocations

/-- Both came to the same end: neither failed, or both with the same error, and
they have done the same. -/
def Agrees {σ : Type} (count : Nat) :
    Except (StoppedWalk σ) (Walk σ) → Except Error Unit × Session σ → Prop
  | .ok walk, (.ok _, session) => Mirrors count walk session
  | .error stopped, (.error error, session) =>
      stopped.error = error ∧ Mirrors count stopped.walk session
  | _, _ => False

/-- From matching starts, the walk and the action come to the same end. -/
def Refines {σ : Type} (count : Nat)
    (run : Walk σ → Except (StoppedWalk σ) (Walk σ)) (action : Session.Action σ Unit) : Prop :=
  ∀ walk session, Mirrors count walk session →
    Agrees count (run walk) (session.after action)

section Simulation

variable {σ : Type} {count : Nat}

theorem refines_ok : Refines (σ := σ) count .ok (pure ()) := by
  intro walk session mirrors
  exact mirrors

/-- After an agreement so far, only what follows a success has to agree. -/
theorem Agrees.bind {session : Session σ} {ran : Except (StoppedWalk σ) (Walk σ)}
    {first : Session.Action σ Unit} {second : Unit → Session.Action σ Unit}
    (agrees : Agrees count ran (session.after first))
    (next : Walk σ → Except (StoppedWalk σ) (Walk σ))
    (continues : ∀ walk middle, ran = .ok walk → Mirrors count walk middle →
      Agrees count (next walk) (middle.after (second ()))) :
    Agrees count (ran >>= next) (session.after (first >>= second)) := by
  rw [Session.after_bind]
  generalize session.after first = ended at agrees ⊢
  match ran, ended, agrees with
  | .ok walk, (.ok _, middle), mirrors => exact continues walk middle rfl mirrors
  | .error _, (.error _, _), agrees => exact agrees

theorem Refines.bind {first second : Walk σ → Except (StoppedWalk σ) (Walk σ)}
    {before : Session.Action σ Unit} {rest : Unit → Session.Action σ Unit}
    (firstRefines : Refines count first before)
    (secondRefines : Refines count second (rest ())) :
    Refines count (fun walk => first walk >>= second) (before >>= rest) := by
  intro walk session mirrors
  exact (firstRefines walk session mirrors).bind second
    fun walk middle _ mirrors => secondRefines walk middle mirrors

theorem refines_call (tree : Tree) {number : Nat} (inside : number < count)
    (check : Check σ) (hook : σ → Outcome σ) :
    Refines count (Walk.call tree number check hook)
      (Session.invoke tree number check hook) := by
  intro walk session mirrors
  rw [Session.after_invoke, Walk.call, mirrors.states number inside]
  have called : Mirrors count
      { walk with
        states := walk.states.setIfInBounds number (hook (session.slot number)).state
        sink := walk.sink ++ (hook (session.slot number)).findings.map
          (Violation.ofFinding tree check.rule) }
      (session.record tree number check.rule (hook (session.slot number))) := by
    refine ⟨?_, ?_, mirrors.nodes, mirrors.invocations⟩
    · intro other otherInside
      have stored : number < walk.states.size :=
        (Array.getElem?_eq_some_iff.mp (mirrors.states number inside)).1
      by_cases same : other = number
      · subst other
        simp [Session.record, stored]
      · rw [Array.getElem?_setIfInBounds_ne (Ne.symm same), mirrors.states other otherInside]
        simp [Session.record, Function.update_of_ne same]
    · simp [Session.record, mirrors.sink]
  cases failed : (hook (session.slot number)).failure with
  | none =>
      simp only [failed]
      exact called
  | some error =>
      simp only [failed]
      exact ⟨rfl, called⟩

theorem refines_callAll (tree : Tree) (hook : Check σ → σ → Outcome σ)
    {checks : List (Nat × Check σ)} (inside : ∀ entry ∈ checks, entry.1 < count) :
    Refines count (Walk.callAll tree hook checks) (Session.fileHooks tree hook checks) := by
  induction checks with
  | nil => exact refines_ok
  | cons entry rest ih =>
      obtain ⟨number, check⟩ := entry
      have unfolded := funext (Walk.callAll_cons tree hook number check rest)
      rw [unfolded]
      exact (refines_call tree (inside _ List.mem_cons_self) check (hook check)).bind
        (ih fun entry member => inside entry (List.mem_cons_of_mem _ member))

theorem refines_countInvocation {run : Walk σ → Except (StoppedWalk σ) (Walk σ)}
    {action : Session.Action σ Unit} (refines : Refines count run action) :
    Refines count (fun walk => run walk.countInvocation) (do
      modify fun session => { session with invocations := session.invocations + 1 }
      action) := by
  intro walk session mirrors
  exact refines _ _ ⟨mirrors.states, mirrors.sink, mirrors.nodes,
    congrArg (· + 1) mirrors.invocations⟩

theorem refines_countNode {run : Walk σ → Except (StoppedWalk σ) (Walk σ)}
    {action : Session.Action σ Unit} (refines : Refines count run action) :
    Refines count (fun walk => run walk.countNode) (do
      modify fun session => { session with nodes := session.nodes + 1 }
      action) := by
  intro walk session mirrors
  exact refines _ _ ⟨mirrors.states, mirrors.sink, congrArg (· + 1) mirrors.nodes,
    mirrors.invocations⟩

theorem refines_callEach (tree : Tree) (hook : Check σ → σ → Outcome σ)
    {checks : List (Nat × Check σ)} (inside : ∀ entry ∈ checks, entry.1 < count) :
    Refines count (Walk.callEach tree hook checks) (Session.nodeHooks tree hook checks) := by
  induction checks with
  | nil => exact refines_ok
  | cons entry rest ih =>
      obtain ⟨number, check⟩ := entry
      have unfolded := funext (Walk.callEach_cons tree hook number check rest)
      rw [unfolded]
      have called := refines_countInvocation
        (refines_call tree (inside _ List.mem_cons_self) check (hook check))
      exact called.bind
        (ih fun entry member => inside entry (List.mem_cons_of_mem _ member))

end Simulation

/-! ## The stack of pending steps -/

/-- The recursion that a pending step stands for. -/
def WalkStep.action {σ : Type} (registry : Registry σ) (tree : Tree) :
    WalkStep → Session.Action σ Unit
  | .enter id => Session.walkNode registry tree id
  | .leave id => Session.leaveNode registry tree id

namespace Registry

variable {σ : Type}

theorem entries_inside (registry : Registry σ) :
    ∀ entry ∈ registry.entries, entry.1 < registry.size := by
  intro entry member
  obtain ⟨⟨check, number⟩, indexed, rfl⟩ := List.mem_map.mp member
  have bound := List.snd_lt_of_mem_zipIdx indexed
  simpa [Registry.size] using bound

theorem checksFor_inside (registry : Registry σ) (kind : Kind) :
    ∀ entry ∈ registry.checksFor kind, entry.1 < registry.size := by
  intro entry member
  obtain ⟨number, -, found⟩ := List.mem_filterMap.mp member
  obtain ⟨check, present, rfl⟩ := Option.map_eq_some_iff.mp found
  exact (Array.getElem?_eq_some_iff.mp present).1

theorem checksFor_eq_nil {registry : Registry σ} {kind : Kind}
    (unheard : registry.isSubscribed kind = false) : registry.checksFor kind = [] := by
  have nobody : registry.subscribers kind = [] := by
    simpa [isSubscribed] using unheard
  simp [checksFor, nobody]

/-- The step of leaving a node may be left out where nobody listens: nothing
would be called. -/
theorem forM_leaving (registry : Registry σ) (tree : Tree) (id : Nat) :
    (WalkStep.leaving registry tree id).forM (WalkStep.action registry tree) =
      Session.leaveNode registry tree id := by
  rw [WalkStep.leaving]
  split
  · simp [WalkStep.action]
  · rename_i unheard
    have nobody := checksFor_eq_nil (Bool.eq_false_iff.mpr unheard)
    simp [Session.leaveNode, Session.nodeHooks, nobody]

/-- Entering a node and working off what it puts on the stack is the recursion
over its subtree. -/
theorem forM_enter_cons (registry : Registry σ) (tree : Tree) (id : Nat)
    (rest : List WalkStep) :
    (WalkStep.enter id :: rest).forM (WalkStep.action registry tree) = (do
      Session.enterNode registry tree id
      ((tree.children id).map WalkStep.enter ++ WalkStep.leaving registry tree id ++ rest).forM
        (WalkStep.action registry tree)) := by
  have children : ((tree.children id).map WalkStep.enter).forM (WalkStep.action registry tree) =
      (tree.children id).forM (Session.walkNode registry tree) :=
    List.forM_map
  have leaving := forM_leaving registry tree id
  simp only [List.forM_eq_forM] at children leaving ⊢
  rw [List.forM_append, List.forM_append, children, leaving, List.forM_cons,
    WalkStep.action, Session.walkNode_eq]
  simp only [bind_assoc, List.forM_eq_forM]

theorem refines_enterNode (registry : Registry σ) (tree : Tree) (id : Nat) :
    Refines registry.size
      (fun walk => walk.countNode.callEach tree (fun check => check.visitNode tree id)
        (registry.checksFor (tree.kind id)))
      (Session.enterNode registry tree id) :=
  refines_countNode
    (refines_callEach tree _ (registry.checksFor_inside (tree.kind id)))

theorem refines_leaveNode (registry : Registry σ) (tree : Tree) (id : Nat) :
    Refines registry.size
      (Walk.callEach tree (fun check => check.leaveNode tree id)
        (registry.checksFor (tree.kind id)))
      (Session.leaveNode registry tree id) :=
  refines_callEach tree _ (registry.checksFor_inside (tree.kind id))

/-- Working off the stack makes the recursions that its steps stand for, one
after the other. -/
theorem refines_walkFrom (registry : Registry σ) (tree : Tree) (steps : List WalkStep) :
    Refines registry.size (registry.walkFrom tree steps)
      (steps.forM (WalkStep.action registry tree)) := by
  intro walk session mirrors
  fun_induction walkFrom registry tree steps walk generalizing session with
  | case1 walk => exact mirrors
  | case2 walk id rest stopped failed =>
      have agrees := registry.refines_enterNode tree id walk session mirrors
      simp only [failed] at agrees
      rw [forM_enter_cons]
      exact agrees.bind .ok fun walk middle impossible => nomatch impossible
  | case3 walk id rest next entered ih =>
      have agrees := registry.refines_enterNode tree id walk session mirrors
      simp only [entered] at agrees
      rw [forM_enter_cons]
      refine agrees.bind (registry.walkFrom tree _) ?_
      rintro walk middle ⟨⟩ mirrors
      exact ih middle mirrors
  | case4 walk id rest stopped failed =>
      have agrees := registry.refines_leaveNode tree id walk session mirrors
      simp only [failed] at agrees
      exact agrees.bind .ok fun walk middle impossible => nomatch impossible
  | case5 walk id rest next left ih =>
      have agrees := registry.refines_leaveNode tree id walk session mirrors
      simp only [left] at agrees
      refine agrees.bind (registry.walkFrom tree rest) ?_
      rintro walk middle ⟨⟩ mirrors
      exact ih middle mirrors

theorem refines_run (registry : Registry σ) (tree : Tree) :
    Refines registry.size
      (fun walk => do
        let walk ← walk.callAll tree (fun check => check.visitFile tree) registry.entries
        let walk ← registry.walkFrom tree [.enter tree.root] walk
        walk.callAll tree (fun check => check.leaveFile tree) registry.entries)
      (Session.walkFile registry tree) := by
  have opening := refines_callAll tree (fun check => check.visitFile tree)
    registry.entries_inside
  have walking := registry.refines_walkFrom tree [.enter tree.root]
  have closing := refines_callAll tree (fun check => check.leaveFile tree)
    registry.entries_inside
  have root : [WalkStep.enter tree.root].forM (WalkStep.action registry tree) =
      Session.walkNode registry tree tree.root := by
    simp [WalkStep.action]
  rw [root] at walking
  exact opening.bind (walking.bind closing)

end Registry

theorem mirrors_start {σ : Type} (registry : Registry σ) (fresh : σ) (sink : Array Violation) :
    Mirrors registry.size (Walk.start registry fresh sink)
      (Session.start fresh sink.toList) := by
  refine ⟨?_, rfl, rfl, rfl⟩
  intro number inside
  simp [Walk.start, Session.start, inside]

/-- What a caller sees of a walk: the counts or the error, and the sink. -/
def Walk.seen {σ : Type} :
    Except (StoppedWalk σ) (Walk σ) → Except Error (Nat × Nat) × List Violation
  | .ok walk => (.ok (walk.nodes, walk.invocations), walk.sink.toList)
  | .error stopped => (.error stopped.error, stopped.walk.sink.toList)

/-- What a caller sees of a session: the counts or the error, and the sink. -/
def Session.seen {σ : Type} :
    Except Error Unit × Session σ → Except Error (Nat × Nat) × List Violation
  | (.ok _, session) => (.ok (session.nodes, session.invocations), session.sink)
  | (.error error, session) => (.error error, session.sink)

theorem Agrees.seen_eq {σ : Type} {count : Nat} {ran : Except (StoppedWalk σ) (Walk σ)}
    {ended : Except Error Unit × Session σ} (agrees : Agrees count ran ended) :
    Walk.seen ran = Session.seen ended := by
  match ran, ended, agrees with
  | .ok walk, (.ok _, session), mirrors =>
      simp [Walk.seen, Session.seen, mirrors.sink, mirrors.nodes, mirrors.invocations]
  | .error stopped, (.error error, session), ⟨sameError, mirrors⟩ =>
      simp [Walk.seen, Session.seen, sameError, mirrors.sink]

/-- The walk with its stack of pending steps answers as the recursion over the
tree does and leaves the same violations in the sink, whatever the checks do
and wherever one of them fails. -/
theorem run_seen_eq_walkFile_seen {σ : Type} (registry : Registry σ) (fresh : σ)
    (tree : Tree) (sink : Array Violation) :
    Walk.seen (registry.run fresh tree sink) =
      Session.seen
        ((Session.start fresh sink.toList).after (Session.walkFile registry tree)) :=
  (registry.refines_run tree _ _ (mirrors_start registry fresh sink)).seen_eq

end TreeLint
