import TreeLint.Proofs.Lineage
import TreeLint.Proofs.Recording

/-!
# The hooks of a node bracket its subtree

A check is called when the walk enters a node of its kinds and again when the
walk leaves it.  What happens in between happens below the node.  So at every
call the nodes that were entered and not yet left are the ancestors of the
node, as far as the check hears them, the nearest one first.  A check may keep
its own stack or depth in this way and need not look upwards in the tree.

The moments of the whole tree are followed first, where the nodes in between
are all ancestors.  Leaving out the moments that a check does not hear leaves
out the nodes that it does not hear.
-/

namespace TreeLint

/-- What a moment makes of the nodes that are open, the innermost one first. -/
def Moment.follow (opened : List Nat) : Moment → List Nat
  | .enter node => node :: opened
  | .leave node => opened.erase node
  | .opening => opened
  | .closing => opened

/-- The nodes that were visited and not yet left, most recently visited first. -/
def pending (log : List Moment) : List Nat :=
  log.foldl Moment.follow []

theorem pending_concat (log : List Moment) (moment : Moment) :
    pending (log ++ [moment]) = moment.follow (pending log) := by
  simp [pending]

/-- What a moment makes of a count of nodes visited and not yet left.  Below zero
there is no answer. -/
def Moment.tally (depth : Nat) : Moment → Option Nat
  | .enter _ => some (depth + 1)
  | .leave _ => if depth = 0 then none else some (depth - 1)
  | .opening => some depth
  | .closing => some depth

def nesting? (log : List Moment) : Option Nat :=
  log.foldlM Moment.tally 0

/-- The calls of a check that listens to some kinds bracket the subtrees of a
tree. -/
structure Bracketed (tree : Tree) (kinds : List Kind) (log : List Moment) : Prop where
  framed : ∃ calls, log = .opening :: calls ++ [.closing] ∧
    ∀ moment ∈ calls, ∃ node, moment = .enter node ∨ moment = .leave node
  visitedOnce : ∀ node, log.count (.enter node) =
    if node < tree.size ∧ tree.kind node ∈ kinds then 1 else 0
  leftOnce : ∀ node, log.count (.leave node) =
    if node < tree.size ∧ tree.kind node ∈ kinds then 1 else 0
  visiting : ∀ before node after, log = before ++ .enter node :: after →
    pending before = (tree.ancestors node).filter fun ancestor => tree.kind ancestor ∈ kinds
  leaving : ∀ before node after, log = before ++ .leave node :: after →
    pending before =
      node :: (tree.ancestors node).filter fun ancestor => tree.kind ancestor ∈ kinds
  nesting : ∀ before node after, log = before ++ .enter node :: after →
    nesting? before =
      some ((tree.ancestors node).countP fun ancestor => tree.kind ancestor ∈ kinds)
  neverBelow : ∀ before, before <+: log → (nesting? before).isSome
  settled : ∀ before after, log = before ++ .closing :: after →
    pending before = [] ∧ nesting? before = some 0

/-! ## Following all moments of a tree -/

namespace Tree

/-- The nodes that are open when a moment comes. -/
def openAt (tree : Tree) : Moment → List Nat
  | .enter node => tree.ancestors node
  | .leave node => node :: tree.ancestors node
  | .opening => []
  | .closing => []

/-- With some nodes open at the start, the right nodes are open at every moment. -/
def Tracks (tree : Tree) (opened : List Nat) : List Moment → Prop
  | [] => True
  | moment :: rest => opened = tree.openAt moment ∧ tree.Tracks (moment.follow opened) rest

theorem tracks_append {tree : Tree} {opened : List Nat} {first second : List Moment} :
    tree.Tracks opened (first ++ second) ↔
      tree.Tracks opened first ∧ tree.Tracks (first.foldl Moment.follow opened) second := by
  induction first generalizing opened with
  | nil => simp [Tracks]
  | cons moment rest ih => simp [Tracks, ih, and_assoc]

/-- The moments keep track of the open nodes and end with those they began with. -/
structure Encloses (tree : Tree) (opened : List Nat) (moments : List Moment) : Prop where
  tracks : tree.Tracks opened moments
  returns : moments.foldl Moment.follow opened = opened

variable {tree : Tree} {builder : Builder}

theorem encloses_flatMap {α : Type} {opened : List Nat} {items : List α}
    {moments : α → List Moment} (each : ∀ item ∈ items, tree.Encloses opened (moments item)) :
    tree.Encloses opened (items.flatMap moments) := by
  induction items with
  | nil => exact ⟨trivial, rfl⟩
  | cons item rest ih =>
      have first := each item List.mem_cons_self
      have later := ih fun item member => each item (List.mem_cons_of_mem _ member)
      rw [List.flatMap_cons]
      constructor
      · exact tracks_append.mpr ⟨first.tracks, first.returns.symm ▸ later.tracks⟩
      · rw [List.foldl_append, first.returns, later.returns]

/-- Entering a node before and leaving it afterwards opens it in between. -/
theorem Encloses.wrap {node : Nat} {inner : List Moment}
    (encloses : tree.Encloses (node :: tree.ancestors node) inner) :
    tree.Encloses (tree.ancestors node) (.enter node :: inner ++ [.leave node]) where
  tracks := by
    have leaves : tree.Tracks (node :: tree.ancestors node) [.leave node] := ⟨rfl, trivial⟩
    exact ⟨rfl, tracks_append.mpr ⟨encloses.tracks, encloses.returns.symm ▸ leaves⟩⟩
  returns := by
    rw [List.cons_append, List.foldl_cons, List.foldl_append, Moment.follow, encloses.returns]
    exact List.erase_cons_head ..

theorem FrozenFrom.encloses_nodeMoments (frozen : tree.FrozenFrom builder) (id : Nat) :
    tree.Encloses (tree.ancestors id) (tree.nodeMoments id) := by
  induction id using Nat.strongRecOn with
  | ind id ih =>
      rw [nodeMoments_eq]
      refine Encloses.wrap (encloses_flatMap ?_)
      intro child isChild
      rw [← frozen.ancestors_of_mem_children isChild]
      exact ih child (lt_of_mem_children isChild)

theorem FrozenFrom.tracks_moments (frozen : tree.FrozenFrom builder) :
    tree.Tracks [] tree.moments := by
  have encloses := frozen.encloses_nodeMoments tree.root
  rw [frozen.ancestors_root] at encloses
  have closes : tree.Tracks [] [.closing] := ⟨rfl, trivial⟩
  exact ⟨rfl, tracks_append.mpr ⟨encloses.tracks, encloses.returns.symm ▸ closes⟩⟩

/-- A node is entered, and left, as often as it stands in the subtree. -/
theorem count_nodeMoments {hook : Nat → Moment} (isHook : hook = .enter ∨ hook = .leave)
    (tree : Tree) (id node : Nat) :
    (tree.nodeMoments id).count (hook node) = (tree.descendants id).count node := by
  induction id using Nat.strongRecOn with
  | ind id ih =>
      have below : ((tree.children id).flatMap tree.nodeMoments).count (hook node) =
          ((tree.children id).flatMap tree.descendants).count node := by
        rw [List.count_flatMap, List.count_flatMap]
        refine congrArg List.sum (List.map_congr_left ?_)
        intro child isChild
        exact ih child (lt_of_mem_children isChild)
      rw [nodeMoments_eq, descendants_eq, List.count_append, List.count_cons, below]
      rcases isHook with rfl | rfl <;> simp [List.count_cons]

theorem count_moments {calls : List BuildCall}
    (frozen : (Builder.after calls).finish = .ok tree) {hook : Nat → Moment}
    (isHook : hook = .enter ∨ hook = .leave) (node : Nat) :
    tree.moments.count (hook node) = if node < tree.size then 1 else 0 := by
  have inWalk : tree.moments.count (hook node) =
      (tree.nodeMoments tree.root).count (hook node) := by
    rw [moments, List.count_append, List.count_cons]
    rcases isHook with rfl | rfl <;> simp
  rw [inWalk, count_nodeMoments isHook, (descendants_root_perm frozen).count_eq]
  by_cases inside : node < tree.size
  · rw [if_pos inside]
    exact List.count_eq_one_of_mem List.nodup_range (by simpa using inside)
  · rw [if_neg inside]
    exact List.count_eq_zero_of_not_mem (by simpa using inside)

end Tree

/-! ## Leaving out what a check does not hear -/

/-- Whether a moment concerns a check that listens to some kinds. -/
def Moment.concerns (tree : Tree) (kinds : List Kind) : Moment → Bool
  | .enter node => tree.kind node ∈ kinds
  | .leave node => tree.kind node ∈ kinds
  | .opening => true
  | .closing => true

theorem Registry.hears_eq {σ : Type} (registry : Registry σ) (tree : Tree) (id : Nat) :
    registry.hears tree id = Moment.concerns tree (registry.kindsOf id) := by
  funext moment
  cases moment <;> simp [hears, Moment.concerns, mem_kindsOf]

section Hearing

variable (tree : Tree) (kinds : List Kind)

/-- The nodes that a check hears. -/
def heard (nodes : List Nat) : List Nat :=
  nodes.filter fun node => tree.kind node ∈ kinds

/-- The log of a check that listens to some kinds. -/
def hearing : List Moment :=
  tree.moments.filter (Moment.concerns tree kinds)

theorem follow_heard (moment : Moment) (opened : List Nat) :
    heard tree kinds (moment.follow opened) =
      if moment.concerns tree kinds then moment.follow (heard tree kinds opened)
      else heard tree kinds opened := by
  cases moment with
  | opening | closing => rfl
  | enter node => simp [heard, Moment.follow, Moment.concerns, List.filter_cons]
  | leave node =>
      rw [Moment.follow, heard, ← List.erase_filter]
      split
      · rfl
      · rename_i unheard
        refine List.erase_of_not_mem fun member => unheard ?_
        exact (List.mem_filter.mp member).2

theorem pending_filter (log : List Moment) :
    pending (log.filter (Moment.concerns tree kinds)) = heard tree kinds (pending log) := by
  induction log using List.reverseRecOn with
  | nil => rfl
  | append_singleton before moment ih =>
      rw [pending_concat, follow_heard, ← ih, List.filter_append]
      by_cases concerned : moment.concerns tree kinds
      · simp [concerned, pending_concat]
      · simp [concerned]

end Hearing

/-! ## The calls of one check -/

section Calls

variable {tree : Tree} {builder : Builder} {kinds : List Kind}

/-- At every call the open nodes are those of the whole walk that the check hears. -/
theorem pending_hearing (frozen : tree.FrozenFrom builder) {before after : List Moment}
    {moment : Moment} (split : hearing tree kinds = before ++ moment :: after) :
    moment.concerns tree kinds = true ∧
      pending before = heard tree kinds (tree.openAt moment) := by
  obtain ⟨first, second, whole, rfl, later⟩ := List.filter_eq_append_iff.mp split
  obtain ⟨skipped, rest, rfl, unheard, concerned, -⟩ := List.filter_eq_cons_iff.mp later
  have tracks := frozen.tracks_moments
  rw [whole, ← List.append_assoc, Tree.tracks_append] at tracks
  refine ⟨concerned, ?_⟩
  -- the walk may go on unheard before the call, which changes no heard node
  have nothing : skipped.filter (Moment.concerns tree kinds) = [] :=
    List.filter_eq_nil_iff.mpr unheard
  calc
    pending (first.filter (Moment.concerns tree kinds)) =
        pending ((first ++ skipped).filter (Moment.concerns tree kinds)) := by
      rw [List.filter_append, nothing, List.append_nil]
    _ = heard tree kinds (pending (first ++ skipped)) := pending_filter ..
    _ = heard tree kinds (tree.openAt moment) := congrArg (heard tree kinds) tracks.2.1

theorem pending_before_leave (frozen : tree.FrozenFrom builder) {before after : List Moment}
    {node : Nat} (split : hearing tree kinds = before ++ .leave node :: after) :
    pending before = node :: heard tree kinds (tree.ancestors node) := by
  obtain ⟨concerned, opened⟩ := pending_hearing frozen split
  rw [opened]
  exact List.filter_cons_of_pos concerned

/-- A counter of the nodes entered and not yet left counts the open nodes. -/
theorem nesting?_hearing (frozen : tree.FrozenFrom builder) {before : List Moment}
    (isPrefix : before <+: hearing tree kinds) :
    nesting? before = some (pending before).length := by
  induction before using List.reverseRecOn with
  | nil => rfl
  | append_singleton before moment ih =>
      obtain ⟨after, whole⟩ := isPrefix
      rw [List.append_assoc, List.singleton_append] at whole
      have soFar := ih ⟨_, whole⟩
      have counted : nesting? (before ++ [moment]) =
          moment.tally (pending before).length := by
        rw [nesting?, List.foldlM_append, ← nesting?, soFar]
        simp
      rw [counted, pending_concat]
      cases moment with
      | opening | closing | enter node => rfl
      | leave node =>
          -- the node to be left is open, so the count is positive
          rw [pending_before_leave frozen whole.symm]
          simp [Moment.tally, Moment.follow]

theorem count_hearing {calls : List BuildCall}
    (frozen : (Builder.after calls).finish = .ok tree) (kinds : List Kind)
    {hook : Nat → Moment} (isHook : hook = .enter ∨ hook = .leave) (node : Nat) :
    (hearing tree kinds).count (hook node) =
      if node < tree.size ∧ tree.kind node ∈ kinds then 1 else 0 := by
  have concerned : (hook node).concerns tree kinds = decide (tree.kind node ∈ kinds) := by
    rcases isHook with rfl | rfl <;> rfl
  by_cases wanted : tree.kind node ∈ kinds
  · have kept : (hook node).concerns tree kinds = true := by simpa [concerned]
    rw [hearing, List.count_filter kept, Tree.count_moments frozen isHook]
    simp [wanted]
  · have absent : hook node ∉ hearing tree kinds := by
      simp [hearing, concerned, wanted]
    rw [List.count_eq_zero_of_not_mem absent]
    simp [wanted]

theorem exists_node_of_mem_nodeMoments {id : Nat} {moment : Moment}
    (member : moment ∈ tree.nodeMoments id) :
    ∃ node, moment = .enter node ∨ moment = .leave node := by
  induction id using Nat.strongRecOn with
  | ind id ih =>
      rw [Tree.nodeMoments_eq, List.mem_append, List.mem_cons, List.mem_flatMap,
        List.mem_singleton] at member
      rcases member with (rfl | ⟨child, isChild, below⟩) | rfl
      · exact ⟨id, .inl rfl⟩
      · exact ih child (Tree.lt_of_mem_children isChild) below
      · exact ⟨id, .inr rfl⟩

theorem bracketed_hearing {calls : List BuildCall}
    (finished : (Builder.after calls).finish = .ok tree) (kinds : List Kind) :
    Bracketed tree kinds (hearing tree kinds) := by
  have frozen := Tree.frozenFrom_of_finish finished
  have counted : ∀ before moment after, hearing tree kinds = before ++ moment :: after →
      nesting? before = some (heard tree kinds (tree.openAt moment)).length := by
    intro before moment after split
    rw [nesting?_hearing frozen ⟨_, split.symm⟩, (pending_hearing frozen split).2]
  constructor
  case framed =>
    refine ⟨(tree.nodeMoments tree.root).filter (Moment.concerns tree kinds), ?_, ?_⟩
    · rw [hearing, Tree.moments, List.cons_append, List.filter_cons_of_pos rfl,
        List.filter_append]
      rfl
    · intro moment member
      exact exists_node_of_mem_nodeMoments (List.mem_filter.mp member).1
  case visitedOnce => exact count_hearing finished kinds (.inl rfl)
  case leftOnce => exact count_hearing finished kinds (.inr rfl)
  case visiting =>
    intro before node after split
    exact (pending_hearing frozen split).2
  case leaving =>
    intro before node after split
    exact pending_before_leave frozen split
  case nesting =>
    intro before node after split
    rw [counted before _ after split, List.countP_eq_length_filter]
    rfl
  case neverBelow =>
    intro before isPrefix
    rw [nesting?_hearing frozen isPrefix]
    rfl
  case settled =>
    intro before after split
    exact ⟨(pending_hearing frozen split).2, counted before _ after split⟩

end Calls

/-- In a walk in which no hook fails, the calls of each check bracket the subtrees
of the nodes that it hears.  The calls are those that recording checks note in a
walk which is otherwise the same. -/
theorem hooks_bracket_subtrees {σ : Type} {calls : List BuildCall} {tree : Tree}
    (frozen : (Builder.after calls).finish = .ok tree) {registry : Registry σ}
    (reachable : registry.Reachable) {fresh : σ} {sink : Array Violation} {walk : Walk σ}
    (succeeds : registry.run fresh tree sink = .ok walk) :
    ∃ recorded, registry.recording.run (fresh, []) tree sink = .ok recorded ∧
      recorded.sink = walk.sink ∧
      ∀ id < registry.size, ∃ state log, walk.states[id]? = some state ∧
        recorded.states[id]? = some (state, log) ∧
        Bracketed tree (registry.kindsOf id) log := by
  obtain ⟨recorded, ran, sameSink, states⟩ := Registry.recording_run reachable.orderly succeeds
  refine ⟨recorded, ran, sameSink, ?_⟩
  intro id inside
  obtain ⟨state, found, logged⟩ := states id inside
  rw [registry.hears_eq] at logged
  exact ⟨state, _, found, logged, bracketed_hearing frozen (registry.kindsOf id)⟩

def jumpNumbers : Check Nat := numbering "jump-numbers" [.block, .breakStatement] 9

theorem deadEcho_bracketed :
    ∃ tree walk recorded log, (Builder.after (deadEcho 2)).finish = .ok tree ∧
      (Registry.after [.register jumpNumbers]).run 0 tree #[] = .ok walk ∧
      (Registry.after [.register jumpNumbers]).recording.run (0, []) tree #[] = .ok recorded ∧
      recorded.states[0]?.map Prod.snd = some log ∧
      Bracketed tree [.block, .breakStatement] log ∧
      ∃ before after, log = before ++ .enter 2 :: after ∧ pending before = [6, 7] ∧
        nesting? before = some 2 := by
  obtain ⟨tree, frozen, succeeds, isJump, above⟩ :
      ∃ tree, (Builder.after (deadEcho 2)).finish = .ok tree ∧
        (Registry.after [.register jumpNumbers]).Succeeds 0 tree ∧
        (2 < tree.size ∧ tree.kind 2 ∈ [Kind.block, .breakStatement]) ∧
        ((tree.ancestors 2).filter fun ancestor =>
          tree.kind ancestor ∈ [Kind.block, .breakStatement]) = [6, 7] :=
    ⟨_, rfl, by decide +kernel⟩
  obtain ⟨walk, ran⟩ := succeeds
  obtain ⟨recorded, recordedRan, -, logs⟩ := hooks_bracket_subtrees frozen ⟨_, rfl⟩ ran
  obtain ⟨state, log, -, logged, bracketed⟩ := logs 0 (by decide)
  have kinds : (Registry.after [.register jumpNumbers]).kindsOf 0 = [.block, .breakStatement] := rfl
  rw [kinds] at bracketed
  have visited := bracketed.visitedOnce 2
  rw [if_pos isJump] at visited
  obtain ⟨before, after, split⟩ :=
    List.append_of_mem (List.count_pos_iff.mp (visited ▸ Nat.one_pos))
  have opened := bracketed.visiting before 2 after split
  have nested := bracketed.nesting before 2 after split
  rw [List.countP_eq_length_filter, above] at nested
  exact ⟨tree, walk, recorded, log, frozen, ran, recordedRan, by rw [logged]; rfl, bracketed,
    before, after, split, opened.trans above, nested⟩

end TreeLint
