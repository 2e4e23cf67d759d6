import TreeLint.Proofs.RecursiveWalk

/-!
# The schedule of a walk

Which hooks a walk calls, and in which order, is known before it starts: it
depends on the tree and on who listens, and not on what the hooks answer.  The
moments of a walk are the same for all registries.  A registry adds who is
called at each moment, which gives the schedule of the walk.  A walk makes the
calls of its schedule one after the other until one of them fails.
-/

namespace TreeLint

/-- A moment of a walk at which hooks are called. -/
inductive Moment where
  | opening
  | enter (id : Nat)
  | leave (id : Nat)
  | closing
deriving DecidableEq, Repr

def Moment.hook {σ : Type} (tree : Tree) (check : Check σ) : Moment → σ → Outcome σ
  | .opening => check.visitFile tree
  | .enter id => check.visitNode tree id
  | .leave id => check.leaveNode tree id
  | .closing => check.leaveFile tree

namespace Tree

def nodeMoments (tree : Tree) (id : Nat) : List Moment :=
  .enter id :: (tree.children id).attach.flatMap (fun child => tree.nodeMoments child.val) ++
    [.leave id]
termination_by id
decreasing_by exact lt_of_mem_children child.property

def moments (tree : Tree) : List Moment :=
  .opening :: tree.nodeMoments tree.root ++ [.closing]

theorem nodeMoments_eq (tree : Tree) (id : Nat) :
    tree.nodeMoments id =
      .enter id :: (tree.children id).flatMap tree.nodeMoments ++ [.leave id] := by
  have children : (tree.children id).attach.flatMap
      (fun child => tree.nodeMoments child.val) =
        (tree.children id).flatMap tree.nodeMoments := by
    calc
      _ = ((tree.children id).attach.map Subtype.val).flatMap tree.nodeMoments :=
        (List.flatMap_map _ _ _).symm
      _ = _ := by rw [List.attach_map_subtype_val]
  rw [nodeMoments, children]

end Tree

/-- One call of a hook: the check with its number, and the moment. -/
structure HookCall (σ : Type) where
  number : Nat
  check : Check σ
  moment : Moment

namespace Registry

variable {σ : Type}

def listeners (registry : Registry σ) (tree : Tree) : Moment → List (Nat × Check σ)
  | .opening => registry.entries
  | .enter id => registry.checksFor (tree.kind id)
  | .leave id => registry.checksFor (tree.kind id)
  | .closing => registry.entries

def hookCalls (registry : Registry σ) (tree : Tree) (moment : Moment) :
    List (HookCall σ) :=
  (registry.listeners tree moment).map fun (number, check) => ⟨number, check, moment⟩

/-- All calls of a walk in which no hook fails. -/
def schedule (registry : Registry σ) (tree : Tree) : List (HookCall σ) :=
  tree.moments.flatMap (registry.hookCalls tree)

end Registry

namespace Session

variable {σ : Type}

def perform (tree : Tree) (call : HookCall σ) : Action σ Unit :=
  invoke tree call.number call.check (call.moment.hook tree call.check)

/-- Makes the calls one after the other until one fails. -/
def play (tree : Tree) (calls : List (HookCall σ)) : Action σ Unit :=
  calls.forM (perform tree)

theorem play_append (tree : Tree) (first second : List (HookCall σ)) :
    play tree (first ++ second) = (do play tree first; play tree second) :=
  List.forM_append

def answer (session : Session σ) (tree : Tree) (call : HookCall σ) : Outcome σ :=
  call.moment.hook tree call.check (session.slot call.number)

/-- The session after a call, whether or not it fails. -/
def next (session : Session σ) (tree : Tree) (call : HookCall σ) : Session σ :=
  session.record tree call.number call.check.rule (session.answer tree call)

theorem after_play_cons (session : Session σ) (tree : Tree) (call : HookCall σ)
    (rest : List (HookCall σ)) :
    session.after (play tree (call :: rest)) =
      match (session.answer tree call).failure with
      | some error => (.error error, session.next tree call)
      | none => (session.next tree call).after (play tree rest) := by
  have performed : session.after (perform tree call) =
      ((match (session.answer tree call).failure with
        | some error => .error error
        | none => .ok ()), session.next tree call) :=
    session.after_invoke tree call.number call.check _
  change session.after (perform tree call >>= fun _ => play tree rest) = _
  rw [after_bind, performed]
  cases (session.answer tree call).failure <;> rfl

/-! ## Walks play their schedule -/

def uncounted (session : Session σ) : Session σ :=
  { session with nodes := 0, invocations := 0 }

/-- Up to the counts, the action makes the calls one after the other. -/
def Plays (tree : Tree) (action : Action σ Unit) (calls : List (HookCall σ)) : Prop :=
  ∀ session : Session σ,
    (session.after action).map id uncounted =
      session.uncounted.after (play tree calls)

theorem plays_pure (tree : Tree) : Plays (σ := σ) tree (pure ()) [] := by
  intro session
  rfl

theorem Plays.bind {tree : Tree} {first : Action σ Unit} {second : Unit → Action σ Unit}
    {earlier later : List (HookCall σ)} (firstPlays : Plays tree first earlier)
    (secondPlays : Plays tree (second ()) later) :
    Plays tree (first >>= second) (earlier ++ later) := by
  intro session
  rw [play_append, after_bind, after_bind, ← firstPlays session]
  cases session.after first with
  | mk answer next =>
      cases answer with
      | ok _ => exact secondPlays next
      | error error => rfl

theorem plays_perform (tree : Tree) (call : HookCall σ) :
    Plays tree (perform tree call) [call] := by
  intro session
  have single : play tree [call] = perform tree call := by simp [play]
  rw [single, perform, after_invoke, after_invoke]
  rfl

theorem plays_modify (tree : Tree) {count : Session σ → Session σ}
    (counts : ∀ session, (count session).uncounted = session.uncounted) :
    Plays tree (modify count) [] := by
  intro session
  exact Prod.ext rfl (counts session)

theorem plays_forM {α : Type} {tree : Tree} {items : List α} {action : α → Action σ Unit}
    {calls : α → List (HookCall σ)}
    (each : ∀ item ∈ items, Plays tree (action item) (calls item)) :
    Plays tree (items.forM action) (items.flatMap calls) := by
  induction items with
  | nil => exact plays_pure tree
  | cons item rest ih =>
      have later := ih fun item member => each item (List.mem_cons_of_mem _ member)
      exact (each item List.mem_cons_self).bind later

theorem plays_fileHooks (tree : Tree) (moment : Moment) (checks : List (Nat × Check σ)) :
    Plays tree (fileHooks tree (fun check => moment.hook tree check) checks)
      (checks.map fun (number, check) => ⟨number, check, moment⟩) := by
  rw [List.map_eq_flatMap]
  apply plays_forM
  intro entry _
  exact plays_perform tree ⟨entry.1, entry.2, moment⟩

theorem plays_nodeHooks (tree : Tree) (moment : Moment) (checks : List (Nat × Check σ)) :
    Plays tree (nodeHooks tree (fun check => moment.hook tree check) checks)
      (checks.map fun (number, check) => ⟨number, check, moment⟩) := by
  rw [List.map_eq_flatMap]
  apply plays_forM
  intro entry _
  have counted : Plays tree (modify fun session : Session σ =>
      { session with invocations := session.invocations + 1 }) [] :=
    plays_modify tree fun _ => rfl
  exact counted.bind (plays_perform tree ⟨entry.1, entry.2, moment⟩)

theorem plays_enterNode (registry : Registry σ) (tree : Tree) (id : Nat) :
    Plays tree (enterNode registry tree id) (registry.hookCalls tree (.enter id)) := by
  have counted : Plays tree (modify fun session : Session σ =>
      { session with nodes := session.nodes + 1 }) [] :=
    plays_modify tree fun _ => rfl
  exact counted.bind (plays_nodeHooks tree (.enter id) _)

theorem plays_leaveNode (registry : Registry σ) (tree : Tree) (id : Nat) :
    Plays tree (leaveNode registry tree id) (registry.hookCalls tree (.leave id)) :=
  plays_nodeHooks tree (.leave id) _

theorem plays_walkNode (registry : Registry σ) (tree : Tree) (id : Nat) :
    Plays tree (walkNode registry tree id)
      ((tree.nodeMoments id).flatMap (registry.hookCalls tree)) := by
  induction id using Nat.strongRecOn with
  | ind id ih =>
      have children : Plays tree ((tree.children id).forM (walkNode registry tree))
          ((tree.children id).flatMap fun child =>
            (tree.nodeMoments child).flatMap (registry.hookCalls tree)) :=
        plays_forM fun child isChild => ih child (Tree.lt_of_mem_children isChild)
      have calls : (tree.nodeMoments id).flatMap (registry.hookCalls tree) =
          registry.hookCalls tree (.enter id) ++
            (((tree.children id).flatMap fun child =>
              (tree.nodeMoments child).flatMap (registry.hookCalls tree)) ++
            registry.hookCalls tree (.leave id)) := by
        rw [tree.nodeMoments_eq]
        simp [List.flatMap_assoc]
      rw [walkNode_eq, calls]
      exact (plays_enterNode registry tree id).bind
        (children.bind (plays_leaveNode registry tree id))

/-- Up to the counts, walking a file is playing its schedule. -/
theorem plays_walkFile (registry : Registry σ) (tree : Tree) :
    Plays tree (walkFile registry tree) (registry.schedule tree) := by
  have calls : registry.schedule tree =
      registry.hookCalls tree .opening ++
        ((tree.nodeMoments tree.root).flatMap (registry.hookCalls tree) ++
          registry.hookCalls tree .closing) := by
    simp [Registry.schedule, Tree.moments]
  rw [calls]
  exact (plays_fileHooks tree .opening registry.entries).bind
    ((plays_walkNode registry tree tree.root).bind
      (plays_fileHooks tree .closing registry.entries))

end Session

/-- Both ends of an agreement at once. -/
theorem Agrees.cases {σ : Type} {count : Nat} {ran : Except (StoppedWalk σ) (Walk σ)}
    {ended : Except Error Unit × Session σ} (agrees : Agrees count ran ended) :
    (∃ walk session, ran = .ok walk ∧ ended = (.ok (), session) ∧
      Mirrors count walk session) ∨
    (∃ stopped session, ran = .error stopped ∧ ended = (.error stopped.error, session) ∧
      Mirrors count stopped.walk session) := by
  obtain ⟨answer, session⟩ := ended
  cases ran with
  | ok walk =>
      cases answer with
      | ok _ => exact .inl ⟨walk, session, rfl, rfl, agrees⟩
      | error error => exact agrees.elim
  | error stopped =>
      cases answer with
      | ok _ => exact agrees.elim
      | error error =>
          obtain ⟨rfl, mirrors⟩ := agrees
          exact .inr ⟨stopped, session, rfl, rfl, mirrors⟩

theorem Agrees.ok_iff {σ : Type} {count : Nat} {ran : Except (StoppedWalk σ) (Walk σ)}
    {ended : Except Error Unit × Session σ} (agrees : Agrees count ran ended) :
    (∃ walk, ran = .ok walk) ↔ ended.1 = .ok () := by
  match ran, ended, agrees with
  | .ok walk, (.ok _, session), _ => simp
  | .error stopped, (.error error, session), _ => simp

theorem Agrees.sink_eq {σ : Type} {count : Nat} {ran : Except (StoppedWalk σ) (Walk σ)}
    {ended : Except Error Unit × Session σ} (agrees : Agrees count ran ended) :
    (Walk.seen ran).2 = ended.2.sink := by
  match ran, ended, agrees with
  | .ok walk, (.ok _, session), mirrors => exact mirrors.sink
  | .error stopped, (.error error, session), ⟨_, mirrors⟩ => exact mirrors.sink

namespace Registry

variable {σ : Type}

/-- The walk of a tree with an empty sink comes to its end without an error. -/
def Succeeds (registry : Registry σ) (fresh : σ) (tree : Tree) : Prop :=
  ∃ walk, registry.run fresh tree #[] = .ok walk

/-- What the sink holds after a walk that started with an empty one, whether or
not it was stopped. -/
def reports (registry : Registry σ) (fresh : σ) (tree : Tree) : List Violation :=
  (Walk.seen (registry.run fresh tree #[])).2

/-- What playing the schedule from the start comes to. -/
def performance (registry : Registry σ) (fresh : σ) (tree : Tree) :
    Except Error Unit × Session σ :=
  (Session.start fresh []).after (Session.play tree (registry.schedule tree))

theorem performance_eq (registry : Registry σ) (fresh : σ) (tree : Tree) :
    registry.performance fresh tree =
      ((Session.start fresh []).after (Session.walkFile registry tree)).map id
        Session.uncounted :=
  (Session.plays_walkFile registry tree (Session.start fresh [])).symm

theorem succeeds_iff (registry : Registry σ) (fresh : σ) (tree : Tree) :
    registry.Succeeds fresh tree ↔ (registry.performance fresh tree).1 = .ok () := by
  rw [performance_eq]
  exact (registry.refines_run tree _ _ (mirrors_start registry fresh #[])).ok_iff

instance (registry : Registry σ) (fresh : σ) (tree : Tree) :
    Decidable (registry.Succeeds fresh tree) :=
  match ended : (registry.performance fresh tree).1 with
  | .ok () => isTrue ((registry.succeeds_iff fresh tree).mpr ended)
  | .error _ => isFalse fun succeeds => by
      rw [succeeds_iff, ended] at succeeds
      cases succeeds

theorem reports_eq (registry : Registry σ) (fresh : σ) (tree : Tree) :
    registry.reports fresh tree = (registry.performance fresh tree).2.sink := by
  rw [performance_eq]
  exact (registry.refines_run tree _ _ (mirrors_start registry fresh #[])).sink_eq

/-- An analysis plays the schedule and answers with the sink, unless a call fails. -/
theorem analyze_eq (registry : Registry σ) (fresh : σ) (tree : Tree) :
    registry.analyze fresh tree =
      (registry.performance fresh tree).1.map
        fun _ => (registry.performance fresh tree).2.sink := by
  have agrees := registry.refines_run tree _ _ (mirrors_start registry fresh #[])
  change Agrees registry.size (registry.run fresh tree #[]) _ at agrees
  rw [performance_eq, analyze]
  rcases agrees.cases with ⟨walk, session, ran, ended, mirrors⟩ |
    ⟨stopped, session, ran, ended, mirrors⟩
  · rw [ran, ended]
    exact congrArg Except.ok mirrors.sink
  · rw [ran, ended]
    rfl

end Registry

end TreeLint
