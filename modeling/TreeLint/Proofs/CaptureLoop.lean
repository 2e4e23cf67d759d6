import Mathlib.Logic.Relation
import TreeLint.Proofs.Terms

/-!
# The loop of a capture

A capture works off a stack of steps and keeps what it has captured in a list.  A
close step takes as many elements from the end of this list as its node has slots, so
that many have to be there.  Here the loop is laid out round by round, and a close
step that finds too few elements has no next round.

Whenever a round begins, the loop is inside a chain of open nodes.  Each of them was
entered on top of the steps that are pending behind its own, and its first slots are
captured at the end of the list, absent ones included.  One round after the other
keeps this, and every such state occurs in the run, so it is known at each close step
which elements lie at the end of the list.
-/

namespace TreeLint

/-- The loop between two rounds: the pending steps with the next one first, and the
captured slots in the order in which they were captured. -/
structure CaptureLoop where
  steps : List CaptureStep
  done : List (Option RawNode)

namespace CaptureLoop

/-- Divides a list in front of its last elements, if it has so many. -/
def splitLast? {α : Type} (items : List α) (count : Nat) : Option (List α × List α) :=
  if count ≤ items.length then some (items.splitAt (items.length - count)) else none

theorem splitLast?_eq_some_iff {α : Type} {items kept last : List α} {count : Nat} :
    splitLast? items count = some (kept, last) ↔ items = kept ++ last ∧ count = last.length := by
  rw [splitLast?, List.splitAt_eq]
  constructor
  · intro divided
    split at divided
    · cases divided
      rw [List.take_append_drop, List.length_drop]
      exact ⟨rfl, by omega⟩
    · cases divided
  · rintro ⟨rfl, rfl⟩
    simp

/-- One round of the loop.  There is none if no step is pending, and none if a close
step asks for more slots than are captured. -/
def round? (tree : Tree) : CaptureLoop → Option CaptureLoop
  | ⟨[], _⟩ => none
  | ⟨.enter none :: rest, done⟩ => some ⟨rest, done ++ [none]⟩
  | ⟨.enter (some id) :: rest, done⟩ =>
    match tree.token? id with
    | some token =>
      some ⟨rest, done ++
        [some (.token token.kind token.text token.position.line token.position.column)]⟩
    | none =>
      some ⟨(tree.slots id).toList.map .enter ++
        .close (tree.kind id) (tree.slots id).size :: rest, done⟩
  | ⟨.close kind arity :: rest, done⟩ =>
    (splitLast? done arity).map fun (kept, children) =>
      ⟨rest, kept ++ [some (.node kind children)]⟩

def Round (tree : Tree) (loop next : CaptureLoop) : Prop :=
  loop.round? tree = some next

/-- Some number of rounds leads from one state to the other. -/
def Reaches (tree : Tree) : CaptureLoop → CaptureLoop → Prop :=
  Relation.ReflTransGen (Round tree)

/-- The capture of a node begins with a step that enters it. -/
def entering (id : Nat) : CaptureLoop :=
  ⟨[.enter (some id)], []⟩

/-! ## Rounds -/

section Rounds

variable {tree : Tree}

theorem round_absent (rest : List CaptureStep) (done : List (Option RawNode)) :
    Round tree ⟨.enter none :: rest, done⟩ ⟨rest, done ++ [tree.slotRaw none]⟩ := rfl

theorem round_token {id : Nat} {token : Token} (isToken : tree.token? id = some token)
    (rest : List CaptureStep) (done : List (Option RawNode)) :
    Round tree ⟨.enter (some id) :: rest, done⟩ ⟨rest, done ++ [tree.slotRaw (some id)]⟩ := by
  rw [Round, round?, isToken, Tree.slotRaw_of_token isToken]

theorem round_compound {id : Nat} (noToken : tree.token? id = none) (rest : List CaptureStep)
    (done : List (Option RawNode)) :
    Round tree ⟨.enter (some id) :: rest, done⟩
      ⟨(tree.slots id).toList.map .enter ++
        .close (tree.kind id) (tree.slots id).size :: rest, done⟩ := by
  rw [Round, round?, noToken]

theorem round_close (tree : Tree) (kind : Kind) (rest : List CaptureStep)
    (kept children : List (Option RawNode)) :
    Round tree ⟨.close kind children.length :: rest, kept ++ children⟩
      ⟨rest, kept ++ [some (.node kind children)]⟩ := by
  rw [Round, round?, splitLast?_eq_some_iff.mpr ⟨rfl, rfl⟩, Option.map_some]

/-- Everything that a round can do: put down a slot that is absent or holds a token, open
a compound node, or collect the last captured slots. -/
theorem round_cases {loop next : CaptureLoop} (round : Round tree loop next) :
    (∃ slot rest done, loop = ⟨.enter slot :: rest, done⟩ ∧
      (∀ id ∈ slot, (tree.token? id).isSome) ∧ next = ⟨rest, done ++ [tree.slotRaw slot]⟩) ∨
    (∃ id rest done, loop = ⟨.enter (some id) :: rest, done⟩ ∧ tree.token? id = none ∧
      next = ⟨(tree.slots id).toList.map .enter ++
        .close (tree.kind id) (tree.slots id).size :: rest, done⟩) ∨
    ∃ kind rest kept children,
      loop = ⟨.close kind children.length :: rest, kept ++ children⟩ ∧
        next = ⟨rest, kept ++ [some (.node kind children)]⟩ := by
  obtain ⟨steps, done⟩ := loop
  rcases steps with _ | ⟨⟨_ | id⟩ | ⟨kind, arity⟩, rest⟩
  · cases round
  · exact .inl ⟨none, rest, done, rfl, by simp,
      Option.some.inj (round.symm.trans (round_absent rest done))⟩
  · cases isToken : tree.token? id with
    | some token =>
        exact .inl ⟨some id, rest, done, rfl, by simp [isToken],
          Option.some.inj (round.symm.trans (round_token isToken rest done))⟩
    | none =>
        exact .inr (.inl ⟨id, rest, done, rfl, isToken,
          Option.some.inj (round.symm.trans (round_compound isToken rest done))⟩)
  · obtain ⟨⟨kept, children⟩, divided, rfl⟩ := Option.map_eq_some_iff.mp round
    obtain ⟨rfl, rfl⟩ := splitLast?_eq_some_iff.mp divided
    exact .inr (.inr ⟨kind, rest, kept, children, rfl, rfl⟩)

theorem exists_round_enter (slot : Option Nat) (rest : List CaptureStep)
    (done : List (Option RawNode)) : ∃ next, Round tree ⟨.enter slot :: rest, done⟩ next := by
  rcases slot with _ | id
  · exact ⟨_, round_absent rest done⟩
  · cases isToken : tree.token? id with
    | some token => exact ⟨_, round_token isToken rest done⟩
    | none => exact ⟨_, round_compound isToken rest done⟩

theorem exists_round_close_iff {kind : Kind} {arity : Nat} {rest : List CaptureStep}
    {done : List (Option RawNode)} :
    (∃ next, Round tree ⟨.close kind arity :: rest, done⟩ next) ↔ arity ≤ done.length := by
  by_cases enough : arity ≤ done.length <;> simp [Round, round?, splitLast?, enough]

example (tree : Tree) : round? tree ⟨[.close .block 2], [none]⟩ = none := rfl

/-- A capture goes through the rounds of its loop. -/
theorem captureFrom_round {loop next : CaptureLoop} (round : Round tree loop next) :
    tree.captureFrom loop.steps loop.done.reverse =
      tree.captureFrom next.steps next.done.reverse := by
  rcases round_cases round with
    ⟨slot, rest, done, rfl, -, rfl⟩ | ⟨id, rest, done, rfl, noToken, rfl⟩ |
      ⟨kind, rest, kept, children, rfl, rfl⟩
  · rw [Tree.captureFrom_enter, List.reverse_concat]
  · rw [Tree.captureFrom, noToken]
    simp only [Array.length_toList]
  · rw [Tree.captureFrom, List.reverse_append, List.reverse_concat]
    simp

/-- What is left to do: the nodes below the pending steps, then the steps themselves. -/
def pending (tree : Tree) (loop : CaptureLoop) : Nat × Nat :=
  (tree.stackWeight (CaptureStep.entered loop.steps), loop.steps.length)

theorem pending_round {loop next : CaptureLoop} (round : Round tree loop next) :
    Prod.Lex (· < ·) (· < ·) (pending tree next) (pending tree loop) := by
  rw [Prod.lex_def, pending, pending]
  rcases round_cases round with
    ⟨slot, rest, done, rfl, -, rfl⟩ | ⟨id, rest, done, rfl, -, rfl⟩ |
      ⟨kind, rest, kept, children, rfl, rfl⟩
  · rcases slot with _ | id
    · simp
    · have unfolded := tree.weight_eq id
      simp only [CaptureStep.entered_present, Tree.stackWeight_cons]
      omega
  · have unfolded := tree.weight_eq id
    simp only [CaptureStep.entered_append, CaptureStep.entered_slots, CaptureStep.entered_close,
      CaptureStep.entered_present, Tree.stackWeight_append, Tree.stackWeight_cons]
    omega
  · simp

/-- No run of the loop goes on forever, wherever it starts. -/
theorem wellFounded_round (tree : Tree) :
    WellFounded fun next loop => Round tree loop next :=
  Subrelation.wf pending_round
    (InvImage.wf (pending tree) (Prod.lex Nat.lt_wfRel Nat.lt_wfRel).wf)

end Rounds

/-! ## Inside a chain of open nodes -/

/-- The states in which a round of the capture of `root` begins.  A compound node is open
from the round that enters it on, on top of what was pending and behind what was done by
then; some of its slots are captured, and the others are still to be entered. -/
inductive Underway (tree : Tree) (root : Nat) : CaptureLoop → Prop
  | start : Underway tree root (entering root)
  | inside {node : Nat} {rest : List CaptureStep} {earlier : List (Option RawNode)}
      {before after : List (Option Nat)} :
      Underway tree root ⟨.enter (some node) :: rest, earlier⟩ → tree.token? node = none →
      (tree.slots node).toList = before ++ after →
      Underway tree root
        ⟨after.map .enter ++ .close (tree.kind node) (tree.slots node).size :: rest,
          earlier ++ before.map tree.slotRaw⟩

/-- The loop after its last round. -/
def ended (tree : Tree) (root : Nat) : CaptureLoop :=
  ⟨[], [tree.slotRaw (some root)]⟩

section Underway

variable {tree : Tree} {root : Nat}

theorem underway_open {node : Nat} {rest : List CaptureStep} {earlier : List (Option RawNode)}
    (underway : Underway tree root ⟨.enter (some node) :: rest, earlier⟩)
    (noToken : tree.token? node = none) :
    Underway tree root ⟨(tree.slots node).toList.map .enter ++
      .close (tree.kind node) (tree.slots node).size :: rest, earlier⟩ := by
  have opened := Underway.inside underway noToken (List.nil_append _).symm
  rwa [List.map_nil, List.append_nil] at opened

/-- Once a slot is captured, the loop is behind it in the same node, or it has ended. -/
theorem underway_behind {slot : Option Nat} {rest : List CaptureStep}
    {done : List (Option RawNode)}
    (underway : Underway tree root ⟨.enter slot :: rest, done⟩) :
    Underway tree root ⟨rest, done ++ [tree.slotRaw slot]⟩ ∨
      ⟨rest, done ++ [tree.slotRaw slot]⟩ = ended tree root := by
  generalize state : CaptureLoop.mk (.enter slot :: rest) done = loop at underway
  cases underway with
  | start =>
      cases state
      exact .inr rfl
  | @inside node outer earlier before after entered noToken divided =>
      rcases after with _ | ⟨next, after⟩
      · cases state
      · cases state
        rw [List.append_cons] at divided
        have moved := Underway.inside entered noToken divided
        rw [List.map_append, List.map_singleton, ← List.append_assoc] at moved
        exact .inl moved

/-- At a close step the slots of its node lie at the end of what is done. -/
theorem underway_close {kind : Kind} {arity : Nat} {rest : List CaptureStep}
    {done : List (Option RawNode)}
    (underway : Underway tree root ⟨.close kind arity :: rest, done⟩) :
    ∃ node earlier, Underway tree root ⟨.enter (some node) :: rest, earlier⟩ ∧
      tree.token? node = none ∧ kind = tree.kind node ∧ arity = (tree.slots node).size ∧
      done = earlier ++ (tree.slots node).toList.map tree.slotRaw := by
  generalize state : CaptureLoop.mk (.close kind arity :: rest) done = loop at underway
  cases underway with
  | start => cases state
  | @inside node outer earlier before after entered noToken divided =>
      rcases after with _ | ⟨next, after⟩
      · cases state
        rw [List.append_nil] at divided
        exact ⟨node, earlier, entered, noToken, rfl, rfl, by rw [divided]⟩
      · cases state

/-- One round keeps the loop underway or ends it. -/
theorem underway_round {loop next : CaptureLoop} (underway : Underway tree root loop)
    (round : Round tree loop next) : Underway tree root next ∨ next = ended tree root := by
  rcases round_cases round with
    ⟨slot, rest, done, rfl, -, rfl⟩ | ⟨id, rest, done, rfl, noToken, rfl⟩ |
      ⟨kind, rest, kept, children, rfl, rfl⟩
  · exact underway_behind underway
  · exact .inl (underway_open underway noToken)
  · obtain ⟨node, earlier, entered, noToken, rfl, arity, done⟩ := underway_close underway
    obtain ⟨rfl, rfl⟩ := List.append_inj' done (by simp [arity])
    rw [← Tree.slotRaw_of_compound noToken]
    exact underway_behind entered

theorem underway_of_reaches {loop : CaptureLoop} (reaches : Reaches tree (entering root) loop) :
    Underway tree root loop ∨ loop = ended tree root := by
  induction reaches with
  | refl => exact .inl .start
  | tail _ round ih =>
      rcases ih with underway | rfl
      · exact underway_round underway round
      · cases round

end Underway

/-! ## Runs -/

section Runs

variable {tree : Tree}

theorem reaches_enterAll {slots : List (Option Nat)}
    (enter : ∀ slot ∈ slots, ∀ rest done,
      Reaches tree ⟨.enter slot :: rest, done⟩ ⟨rest, done ++ [tree.slotRaw slot]⟩)
    (rest : List CaptureStep) (done : List (Option RawNode)) :
    Reaches tree ⟨slots.map .enter ++ rest, done⟩ ⟨rest, done ++ slots.map tree.slotRaw⟩ := by
  induction slots generalizing done with
  | nil =>
      simp only [List.map_nil, List.nil_append, List.append_nil]
      exact Relation.ReflTransGen.refl
  | cons slot slots ih =>
      have first := enter slot List.mem_cons_self (slots.map .enter ++ rest) done
      have others := ih (fun slot member => enter slot (List.mem_cons_of_mem _ member))
        (done ++ [tree.slotRaw slot])
      rw [List.append_assoc] at others
      exact first.trans others

/-- A step that enters a slot comes to the capture of this slot. -/
theorem reaches_enter (slot : Option Nat) (rest : List CaptureStep)
    (done : List (Option RawNode)) :
    Reaches tree ⟨.enter slot :: rest, done⟩ ⟨rest, done ++ [tree.slotRaw slot]⟩ := by
  induction slot using Tree.slot_induction tree generalizing rest done with
  | absent => exact .single (round_absent rest done)
  | token id token isToken => exact .single (round_token isToken rest done)
  | compound id noToken ih =>
      have filled := reaches_enterAll ih (.close (tree.kind id) (tree.slots id).size :: rest) done
      have collected := round_close tree (tree.kind id) rest done
        ((tree.slots id).toList.map tree.slotRaw)
      rw [List.length_map, Array.length_toList, ← Tree.slotRaw_of_compound noToken] at collected
      exact (filled.head (round_compound noToken rest done)).tail collected

/-- A node that is entered has the first ones of its slots captured later on. -/
theorem reaches_inside {node : Nat} (noToken : tree.token? node = none)
    {before after : List (Option Nat)} (divided : (tree.slots node).toList = before ++ after)
    (rest : List CaptureStep) (earlier : List (Option RawNode)) :
    Reaches tree ⟨.enter (some node) :: rest, earlier⟩
      ⟨after.map .enter ++ .close (tree.kind node) (tree.slots node).size :: rest,
        earlier ++ before.map tree.slotRaw⟩ := by
  have opened := round_compound noToken rest earlier
  rw [divided, List.map_append, List.append_assoc] at opened
  exact (reaches_enterAll (fun slot _ => reaches_enter slot) _ earlier).head opened

theorem reaches_of_underway {root : Nat} {loop : CaptureLoop}
    (underway : Underway tree root loop) : Reaches tree (entering root) loop := by
  induction underway with
  | start => exact Relation.ReflTransGen.refl
  | inside _ noToken divided ih => exact ih.trans (reaches_inside noToken divided _ _)

/-- The states that the capture of a node passes through are those inside a chain of open
nodes, and the last one. -/
theorem reaches_iff {root : Nat} {loop : CaptureLoop} :
    Reaches tree (entering root) loop ↔ Underway tree root loop ∨ loop = ended tree root := by
  constructor
  · exact underway_of_reaches
  · rintro (underway | rfl)
    · exact reaches_of_underway underway
    · exact reaches_enter (some root) [] []

end Runs

/-- A close step for a compound node: it names the kind of the node and the number of its
slots, at least this many elements are done, and the last ones of them are the captures
of the slots in order. -/
structure Closes (tree : Tree) (node : Nat) (kind : Kind) (arity : Nat)
    (done : List (Option RawNode)) : Prop where
  noToken : tree.token? node = none
  kind_eq : kind = tree.kind node
  arity_eq : arity = (tree.slots node).size
  enough : arity ≤ done.length
  last_eq : done.drop (done.length - arity) = (tree.slots node).toList.map tree.slotRaw

theorem closes_of_append {tree : Tree} {node : Nat} (noToken : tree.token? node = none)
    (earlier : List (Option RawNode)) :
    Closes tree node (tree.kind node) (tree.slots node).size
      (earlier ++ (tree.slots node).toList.map tree.slotRaw) where
  noToken := noToken
  kind_eq := rfl
  arity_eq := rfl
  enough := by simp
  last_eq := by simp

/-- A close step was put down when a node was entered with the same steps pending behind
it, and it is a close step for this node. -/
theorem exists_closes {tree : Tree} {root : Nat} {kind : Kind} {arity : Nat}
    {rest : List CaptureStep} {done : List (Option RawNode)}
    (reaches : Reaches tree (entering root) ⟨.close kind arity :: rest, done⟩) :
    ∃ node earlier, Reaches tree (entering root) ⟨.enter (some node) :: rest, earlier⟩ ∧
      Reaches tree ⟨.enter (some node) :: rest, earlier⟩ ⟨.close kind arity :: rest, done⟩ ∧
      Closes tree node kind arity done := by
  rcases reaches_iff.mp reaches with underway | isEnd
  · obtain ⟨node, earlier, entered, noToken, rfl, rfl, rfl⟩ := underway_close underway
    refine ⟨node, earlier, reaches_iff.mpr (.inl entered), ?_, closes_of_append noToken earlier⟩
    exact reaches_inside noToken (List.append_nil _).symm rest earlier
  · cases isEnd

/-- The loop is never stuck: as long as a step is pending there is a next round. -/
theorem exists_round {tree : Tree} {root : Nat} {loop : CaptureLoop}
    (reaches : Reaches tree (entering root) loop) (stepLeft : loop.steps ≠ []) :
    ∃ next, Round tree loop next := by
  obtain ⟨steps, done⟩ := loop
  rcases steps with _ | ⟨slot | ⟨kind, arity⟩, rest⟩
  · exact absurd rfl stepLeft
  · exact exists_round_enter slot rest done
  · obtain ⟨node, -, -, -, closes⟩ := exists_closes reaches
    exact exists_round_close_iff.mpr closes.enough

theorem done_eq_of_ended {tree : Tree} {root : Nat} {loop : CaptureLoop}
    (reaches : Reaches tree (entering root) loop) (noStep : loop.steps = []) :
    loop.done = [some (tree.term root).raw] := by
  rcases reaches_iff.mp reaches with underway | rfl
  · cases underway <;> simp [entering] at noStep
  · rfl

theorem captureFrom_of_reaches {tree : Tree} {loop next : CaptureLoop}
    (reaches : Reaches tree loop next) :
    tree.captureFrom loop.steps loop.done.reverse =
      tree.captureFrom next.steps next.done.reverse := by
  induction reaches with
  | refl => rfl
  | tail _ round ih => exact ih.trans (captureFrom_round round)

end CaptureLoop

/-- The loop of a capture is safe and exact, for every node.  It comes to an end, and a
next round is there as long as a step is pending, so no close step asks for more than is
done.  Each close step was put on top of the same pending steps when a compound node was
entered, and the captures of the slots of this node lie at the end of what is done.  When
no step is pending, exactly one element is done, the recursive capture of the node.  The
capture runs through these very rounds, so this element is its answer. -/
theorem capture_loop_is_safe_and_exact (tree : Tree) (id : Nat) :
    (WellFounded fun next loop => CaptureLoop.Round tree loop next) ∧
    (∀ loop, CaptureLoop.Reaches tree (.entering id) loop →
      (loop.steps ≠ [] → ∃ next, loop.round? tree = some next) ∧
      (loop.steps = [] → loop.done = [some (tree.term id).raw]) ∧
      tree.captureFrom loop.steps loop.done.reverse = [some (tree.term id).raw]) ∧
    (∀ kind arity rest done,
      CaptureLoop.Reaches tree (.entering id) ⟨.close kind arity :: rest, done⟩ →
        ∃ node earlier,
          CaptureLoop.Reaches tree (.entering id) ⟨.enter (some node) :: rest, earlier⟩ ∧
          CaptureLoop.Reaches tree ⟨.enter (some node) :: rest, earlier⟩
            ⟨.close kind arity :: rest, done⟩ ∧
          CaptureLoop.Closes tree node kind arity done) ∧
    CaptureLoop.Reaches tree (.entering id) ⟨[], [some (tree.term id).raw]⟩ ∧
    tree.capture id = (tree.term id).raw := by
  have reachesEnd : CaptureLoop.Reaches tree (.entering id) (.ended tree id) :=
    CaptureLoop.reaches_iff.mpr (.inr rfl)
  refine ⟨CaptureLoop.wellFounded_round tree, ?_, ?_, reachesEnd, tree.capture_eq_raw_term id⟩
  · intro loop reaches
    refine ⟨CaptureLoop.exists_round reaches, CaptureLoop.done_eq_of_ended reaches, ?_⟩
    have unchanged := CaptureLoop.captureFrom_of_reaches reaches
    rw [← unchanged, CaptureLoop.entering, List.reverse_nil, Tree.captureFrom_enter,
      Tree.captureFrom]
    rfl
  · intro kind arity rest done reaches
    exact CaptureLoop.exists_closes reaches

end TreeLint
