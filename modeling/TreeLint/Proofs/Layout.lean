import TreeLint.Proofs.BuiltinRules
import TreeLint.Proofs.Independence
import TreeLint.Proofs.Numbering
import TreeLint.Proofs.Schedule
import TreeLint.Proofs.StructuralEquality
import TreeLint.Proofs.Traversals
import TreeLint.Proofs.WellShaped

/-!
# Layout does not influence an analysis

The comparison of two trees never looks at indices.  Yet two frozen trees that
are structurally equal have the same records under the same indices, except for
the positions of tokens, because the numbering of nodes depends on nothing else.

The built-in checks never look at positions.  So two walks of such trees call the
same hooks in the same order and get the same answers, and the violations differ
in nothing but the positions that are looked up for their anchors.
-/

namespace TreeLint

/-! ## Records without positions -/

namespace NodeData

def unplaced : NodeData → NodeData
  | .compound kind slots => .compound kind slots
  | .token kind text _ => .token kind text ⟨0, 0⟩

@[simp]
theorem kind_unplaced (data : NodeData) : data.unplaced.kind = data.kind := by
  cases data <;> rfl

@[simp]
theorem slots_unplaced (data : NodeData) : data.unplaced.slots = data.slots := by
  cases data <;> rfl

def text? : NodeData → Option String
  | .compound _ _ => none
  | .token _ text _ => some text

@[simp]
theorem text?_unplaced (data : NodeData) : data.unplaced.text? = data.text? := by
  cases data <;> rfl

end NodeData

theorem linksOf_map_unplaced (nodes : Array NodeData) :
    linksOf (nodes.map NodeData.unplaced) = linksOf nodes := by
  rw [linksOf, linksOf, Array.toList_map, List.zipIdx_map, List.foldl_map, Array.size_map]
  congr 1
  funext links entry
  obtain ⟨data, id⟩ := entry
  exact congrArg (linkSlots id links) data.slots_unplaced

namespace Term

/-- The term with all tokens at the same place: what is left of its exchange form
without positions. -/
def unplaced (term : Term) : Term :=
  term.raw.unplaced.term

theorem unplaced_token (kind : Kind) (text : String) (line column : UInt32) :
    (Term.token kind text line column).unplaced = .token kind text 0 0 := by
  rw [unplaced, raw, RawNode.token, RawNode.unplaced_mk]
  rfl

theorem unplaced_compound (kind : Kind) (slots : List (Option Term)) :
    (Term.compound kind slots).unplaced =
      .compound kind (slots.map (Option.map unplaced)) := by
  rw [unplaced, raw, RawNode.node, RawNode.unplaced_mk, RawNode.term,
    RawNode.slotTerms_eq_map, rawSlots_eq_map, List.map_map, List.map_map]
  congr 1
  refine List.map_congr_left ?_
  intro slot _
  cases slot <;> rfl

mutual

theorem count_unplaced : ∀ term : Term, term.unplaced.count = term.count
  | .token kind text line column => by rw [unplaced_token, count, count]
  | .compound kind slots => by
      rw [unplaced_compound, count, count, slotCount_unplaced slots]

theorem slotCount_unplaced : ∀ slots : List (Option Term),
    slotCount (slots.map (Option.map unplaced)) = slotCount slots
  | [] => rfl
  | none :: rest => slotCount_unplaced rest
  | some term :: rest => by
      rw [List.map_cons, Option.map_some, slotCount, slotCount, count_unplaced term,
        slotCount_unplaced rest]

end

theorem slotIds_unplaced (next : Nat) (slots : List (Option Term)) :
    slotIds next (slots.map (Option.map unplaced)) = slotIds next slots := by
  induction slots generalizing next with
  | nil => rfl
  | cons slot rest ih => cases slot <;> simp [slotIds, count_unplaced, ih]

mutual

theorem records_unplaced (next : Nat) : ∀ term : Term,
    term.unplaced.records next = (term.records next).map NodeData.unplaced
  | .token kind text line column => by
      rw [unplaced_token]
      rfl
  | .compound kind slots => by
      rw [unplaced_compound, records, records, slotRecords_unplaced next slots,
        slotIds_unplaced, List.map_append]
      rfl

theorem slotRecords_unplaced (next : Nat) : ∀ slots : List (Option Term),
    slotRecords next (slots.map (Option.map unplaced)) =
      (slotRecords next slots).map NodeData.unplaced
  | [] => rfl
  | none :: rest => slotRecords_unplaced next rest
  | some term :: rest => by
      rw [List.map_cons, Option.map_some, slotRecords, slotRecords, count_unplaced,
        records_unplaced next term, slotRecords_unplaced (next + term.count) rest,
        List.map_append]

end

end Term

/-! ## Trees that differ in their layout -/

namespace Tree

/-- Both trees have the same records under the same indices, except for the
positions of tokens. -/
structure Relaid (left right : Tree) : Prop where
  nodes : left.nodes.map NodeData.unplaced = right.nodes.map NodeData.unplaced
  root : left.root = right.root

theorem relaid_of_structurallyEqual {leftCalls rightCalls : List BuildCall} {left right : Tree}
    (leftFrozen : (Builder.after leftCalls).finish = .ok left)
    (rightFrozen : (Builder.after rightCalls).finish = .ok right)
    (equal : left.structurallyEqual right (some left.root) (some right.root) = true) :
    Relaid left right := by
  have outlines := (structurallyEqual_iff_outline ..).mp equal
  have sameTerm : (left.term left.root).unplaced = (right.term right.root).unplaced := by
    have sameRaw : (left.capture left.root).unplaced = (right.capture right.root).unplaced :=
      Option.some.inj outlines
    rw [capture_eq_raw_term, capture_eq_raw_term] at sameRaw
    exact congrArg RawNode.term sameRaw
  have sameNodes : left.nodes.map NodeData.unplaced = right.nodes.map NodeData.unplaced := by
    apply Array.toList_inj.mp
    calc
      _ = (left.term left.root).unplaced.records 0 := by
        rw [Array.toList_map, nodes_eq_records leftFrozen, Term.records_unplaced]
      _ = (right.term right.root).unplaced.records 0 := by rw [sameTerm]
      _ = _ := by rw [Array.toList_map, nodes_eq_records rightFrozen, Term.records_unplaced]
  refine ⟨sameNodes, ?_⟩
  have leftRoot := (frozenFrom_of_finish leftFrozen).root_succ_eq_size
  have rightRoot := (frozenFrom_of_finish rightFrozen).root_succ_eq_size
  have sizes := congrArg Array.size sameNodes
  rw [Array.size_map, Array.size_map] at sizes
  rw [size] at leftRoot rightRoot
  omega

namespace Relaid

variable {left right : Tree}

theorem size_eq (relaid : Relaid left right) : left.size = right.size := by
  have sizes := congrArg Array.size relaid.nodes
  rwa [Array.size_map, Array.size_map] at sizes

/-- What can be told from a record without its position is the same in both
trees. -/
theorem map_eq {α : Type} (relaid : Relaid left right) {view : NodeData → α}
    (ignores : ∀ data : NodeData, view data.unplaced = view data) (id : Nat) :
    left.nodes[id]?.map view = right.nodes[id]?.map view := by
  have through : ∀ tree : Tree, tree.nodes[id]?.map view =
      (tree.nodes.map NodeData.unplaced)[id]?.map view := by
    intro tree
    rw [Array.getElem?_map, Option.map_map]
    exact congrArg (Option.map · _) (funext fun data => (ignores data).symm)
  rw [through left, relaid.nodes, ← through right]

theorem kind_eq (relaid : Relaid left right) (id : Nat) : left.kind id = right.kind id := by
  have fromRecord : ∀ tree : Tree,
      tree.kind id = (tree.nodes[id]?.map NodeData.kind).getD .unknown := by
    intro tree
    rw [kind]
    cases tree.nodes[id]? <;> rfl
  rw [fromRecord, fromRecord, relaid.map_eq NodeData.kind_unplaced]

theorem slots_eq (relaid : Relaid left right) (id : Nat) : left.slots id = right.slots id := by
  have fromRecord : ∀ tree : Tree,
      tree.slots id = (tree.nodes[id]?.map NodeData.slots).getD #[] := by
    intro tree
    rw [slots]
    cases tree.nodes[id]? <;> rfl
  rw [fromRecord, fromRecord, relaid.map_eq NodeData.slots_unplaced]

theorem text_eq (relaid : Relaid left right) (id : Nat) :
    (left.token? id).map Token.text = (right.token? id).map Token.text := by
  have fromRecord : ∀ tree : Tree,
      (tree.token? id).map Token.text = (tree.nodes[id]?.map NodeData.text?).getD none := by
    intro tree
    rw [token?]
    cases tree.nodes[id]? with
    | none => rfl
    | some data => cases data <;> rfl
  rw [fromRecord, fromRecord, relaid.map_eq NodeData.text?_unplaced]

theorem children_eq (relaid : Relaid left right) (id : Nat) :
    left.children id = right.children id := by
  rw [children, relaid.slots_eq, children]

theorem link_eq (relaid : Relaid left right) (id : Nat) : left.link? id = right.link? id := by
  have sameLinks : left.links = right.links := by
    rw [left.linked, right.linked, ← linksOf_map_unplaced left.nodes, relaid.nodes,
      linksOf_map_unplaced]
  rw [link?, sameLinks, link?]

theorem nextSibling_eq (relaid : Relaid left right) (id : Nat) :
    left.nextSibling? id = right.nextSibling? id := by
  rw [nextSibling?, relaid.link_eq, nextSibling?]
  cases right.link? id with
  | none => rfl
  | some link => exact congrArg (firstPresentFrom? · _) (relaid.slots_eq link.parent)

theorem descendants_eq (relaid : Relaid left right) (id : Nat) :
    left.descendants id = right.descendants id := by
  induction id using Nat.strongRecOn with
  | ind id ih =>
      rw [left.descendants_eq, right.descendants_eq, relaid.children_eq]
      congr 1
      apply List.flatMap_congr
      intro child isChild
      exact ih child (lt_of_mem_children isChild)

theorem nodeMoments_eq (relaid : Relaid left right) (id : Nat) :
    left.nodeMoments id = right.nodeMoments id := by
  induction id using Nat.strongRecOn with
  | ind id ih =>
      have below : (right.children id).flatMap left.nodeMoments =
          (right.children id).flatMap right.nodeMoments := by
        apply List.flatMap_congr
        intro child isChild
        exact ih child (lt_of_mem_children isChild)
      rw [left.nodeMoments_eq, right.nodeMoments_eq, relaid.children_eq, below]

theorem outline_eq (relaid : Relaid left right) (id : Nat) :
    left.outline (some id) = right.outline (some id) := by
  induction id using Nat.strongRecOn with
  | ind id ih =>
      have below : (right.slots id).toList.map left.outline =
          (right.slots id).toList.map right.outline := by
        apply List.map_congr_left
        intro slot isSlot
        cases slot with
        | none => rfl
        | some child =>
            have isChild : child ∈ right.children id := by simpa [children] using isSlot
            exact ih child (lt_of_mem_children isChild)
      rw [outline_eq_iff, relaid.slots_eq, below]
      exact ⟨relaid.kind_eq id, rfl, relaid.text_eq id⟩

/-- Trees that differ in their layout alone are structurally equal, frozen or not. -/
theorem structurallyEqual (relaid : Relaid left right) :
    left.structurallyEqual right (some left.root) (some right.root) = true := by
  rw [structurallyEqual_iff_outline, relaid.root]
  exact relaid.outline_eq right.root

theorem firstToken_eq (relaid : Relaid left right) (id : Nat) :
    (left.firstToken? id).map Token.text = (right.firstToken? id).map Token.text := by
  have texts : ∀ tree : Tree, (tree.firstToken? id).map Token.text =
      ((tree.descendants id).filterMap fun node => (tree.token? node).map Token.text).head? := by
    intro tree
    rw [firstToken?_eq, ← List.head?_map, tokens, List.map_filterMap]
  rw [texts, texts, relaid.descendants_eq]
  simp only [relaid.text_eq]

end Relaid

end Tree

/-! ## Checks that do not see the layout -/

/-- The check answers in the same way at every moment of a walk of either tree. -/
def Check.AnswersAlike {σ : Type} (check : Check σ) (left right : Tree) : Prop :=
  ∀ (moment : Moment) (state : σ), moment.hook left check state = moment.hook right check state

theorem CodeFollowingJump.following_eq {left right : Tree} (relaid : left.Relaid right)
    (jump : Nat) : following? left jump = following? right jump := by
  rw [following?, Tree.parent?, relaid.link_eq, following?, Tree.parent?]
  cases (right.link? jump).map Link.parent with
  | none => rfl
  | some wrapper =>
      dsimp only
      rw [relaid.nextSibling_eq]
      cases right.nextSibling? wrapper with
      | none => rfl
      | some next =>
          dsimp only
          rw [relaid.kind_eq]

theorem CodeFollowingJump.visit_eq {σ : Type} {left right : Tree} (relaid : left.Relaid right)
    (jump : Nat) (state : σ) : visit left jump state = visit right jump state := by
  have keywords := relaid.firstToken_eq jump
  rw [visit, following_eq relaid, visit, relaid.kind_eq]
  cases following? right jump with
  | none => rfl
  | some next =>
      cases first : left.firstToken? jump with
      | none =>
          rw [first, eq_comm, Option.map_none, Option.map_eq_none_iff] at keywords
          rw [keywords]
      | some keyword =>
          rw [first, eq_comm, Option.map_some, Option.map_eq_some_iff] at keywords
          obtain ⟨other, second, sameText⟩ := keywords
          rw [second]
          simp only [sameText]

theorem builtinChecks_answerAlike {σ : Type} {left right : Tree} (relaid : left.Relaid right) :
    ∀ check ∈ builtinChecks σ, check.AnswersAlike left right := by
  intro check member
  rw [builtinChecks, List.mem_singleton] at member
  subst member
  intro moment state
  cases moment with
  | opening => rfl
  | enter id => exact CodeFollowingJump.visit_eq relaid id state
  | leave id => rfl
  | closing => rfl

/-! ## Two walks side by side -/

/-- Two violations that differ at most in their position. -/
def Violation.SameBesidesPosition (first second : Violation) : Prop :=
  first.rule = second.rule ∧ first.message = second.message ∧
    first.parameters = second.parameters ∧ first.anchor = second.anchor

/-- Two analyses that fail with the same error, or whose violations agree one by
one in everything but the position. -/
def SameAnalysis : Except Error (List Violation) → Except Error (List Violation) → Prop
  | .ok first, .ok second => List.Forall₂ Violation.SameBesidesPosition first second
  | .error first, .error second => first = second
  | _, _ => False

namespace Session

variable {σ : Type}

structure Alike (first second : Session σ) : Prop where
  slot : first.slot = second.slot
  sink : List.Forall₂ Violation.SameBesidesPosition first.sink second.sink

theorem Alike.record {first second : Session σ} (alike : Alike first second) (left right : Tree)
    (number : Nat) (rule : String) (outcome : Outcome σ) :
    Alike (first.record left number rule outcome) (second.record right number rule outcome) where
  slot := by rw [Session.record, alike.slot, Session.record]
  sink := by
    refine List.rel_append alike.sink ?_
    rw [List.forall₂_map_left_iff, List.forall₂_map_right_iff, List.forall₂_same]
    intro finding _
    exact ⟨rfl, rfl, rfl, rfl⟩

theorem Alike.play {left right : Tree} {calls : List (HookCall σ)}
    (answers : ∀ call ∈ calls, call.check.AnswersAlike left right)
    {first second : Session σ} (alike : Alike first second) :
    (first.after (Session.play left calls)).1 = (second.after (Session.play right calls)).1 ∧
      Alike (first.after (Session.play left calls)).2
        (second.after (Session.play right calls)).2 := by
  induction calls generalizing first second with
  | nil => exact ⟨rfl, alike⟩
  | cons call rest ih =>
      obtain ⟨answersHere, answersLater⟩ := List.forall_mem_cons.mp answers
      have sameAnswer : first.answer left call = second.answer right call := by
        rw [answer, alike.slot, answersHere, answer]
      have next : Alike (first.next left call) (second.next right call) := by
        rw [Session.next, sameAnswer]
        exact alike.record left right call.number call.check.rule _
      rw [after_play_cons, after_play_cons, sameAnswer]
      cases (second.answer right call).failure with
      | some error => exact ⟨rfl, next⟩
      | none => exact ih answersLater next

end Session

namespace Registry

variable {σ : Type}

theorem schedule_relaid (registry : Registry σ) {left right : Tree} (relaid : left.Relaid right) :
    registry.schedule left = registry.schedule right := by
  have moments : left.moments = right.moments := by
    rw [Tree.moments, Tree.moments, relaid.root, relaid.nodeMoments_eq]
  have calls : registry.hookCalls left = registry.hookCalls right := by
    funext moment
    rw [hookCalls, hookCalls]
    cases moment <;> simp only [listeners, relaid.kind_eq]
  rw [schedule, moments, calls, schedule]

/-- Checks that answer alike lead to the same analysis up to positions. -/
theorem sameAnalysis_of_relaid {registry : Registry σ} {left right : Tree}
    (relaid : left.Relaid right)
    (answers : ∀ check ∈ registry.checks.toList, check.AnswersAlike left right) (fresh : σ) :
    SameAnalysis (registry.analyze fresh left) (registry.analyze fresh right) := by
  have calls : ∀ call ∈ registry.schedule right, call.check.AnswersAlike left right := by
    intro call member
    have found := number_of_mem_schedule member
    exact answers call.check (Array.mem_toList_iff.mpr (Array.mem_of_getElem? found))
  have start : Session.Alike (Session.start fresh []) (Session.start fresh []) :=
    ⟨rfl, .nil⟩
  obtain ⟨sameEnd, alike⟩ := start.play calls
  rw [analyze_eq, analyze_eq, performance, performance, registry.schedule_relaid relaid, sameEnd]
  generalize ((Session.start fresh []).after _).1 = ended
  cases ended with
  | ok _ => exact alike.sink
  | error error => rfl

end Registry

/-- Two frozen trees that are structurally equal have as many nodes, and the same
kind, slots and text under every index.  With the built-in checks, under any
configuration, their analyses fail with the same error or report violations that
agree one by one in everything but the position. -/
theorem layout_does_not_influence_analysis {leftCalls rightCalls : List BuildCall}
    {left right : Tree} (leftFrozen : (Builder.after leftCalls).finish = .ok left)
    (rightFrozen : (Builder.after rightCalls).finish = .ok right)
    (equal : left.structurallyEqual right (some left.root) (some right.root) = true) :
    left.size = right.size ∧
    (∀ id, left.kind id = right.kind id ∧ left.slots id = right.slots id ∧
      (left.token? id).map Token.text = (right.token? id).map Token.text) ∧
    ∀ (config : Config) (σ : Type) (fresh : σ), ∃ registry, config.registry σ = .ok registry ∧
      SameAnalysis (registry.analyze fresh left) (registry.analyze fresh right) := by
  have relaid := Tree.relaid_of_structurallyEqual leftFrozen rightFrozen equal
  refine ⟨relaid.size_eq, fun id => ⟨relaid.kind_eq id, relaid.slots_eq id, relaid.text_eq id⟩, ?_⟩
  intro config σ fresh
  obtain ⟨built, checks⟩ := config.registry_eq_after σ
  refine ⟨_, built, Registry.sameAnalysis_of_relaid relaid ?_ fresh⟩
  rw [checks]
  intro check member
  exact builtinChecks_answerAlike relaid check ((config.enabledChecks_sublist σ).mem member)

theorem deadEcho_analyzed_alike :
    ∃ left right, (Builder.after (deadEcho 2)).finish = .ok left ∧
      (Builder.after (deadEcho 9)).finish = .ok right ∧
      left.structurallyEqual right (some left.root) (some right.root) = true ∧
      left.nodes ≠ right.nodes ∧
      ∃ registry, Config.registry {} Unit = .ok registry ∧
        (registry.analyze () left).toOption.map List.length = some 1 ∧
        SameAnalysis (registry.analyze () left) (registry.analyze () right) := by
  obtain ⟨left, right, leftFrozen, rightFrozen, equal, different, reported⟩ : ∃ left right,
      (Builder.after (deadEcho 2)).finish = .ok left ∧
      (Builder.after (deadEcho 9)).finish = .ok right ∧
      left.structurallyEqual right (some left.root) (some right.root) = true ∧
      left.nodes ≠ right.nodes ∧
      ((Registry.after ((Config.enabledChecks {} Unit).map RegistryCall.register)).analyze ()
        left).toOption.map List.length = some 1 := by
    refine ⟨_, _, rfl, rfl, Tree.Relaid.structurallyEqual ⟨?_, rfl⟩, by decide +kernel, ?_⟩
    · decide +kernel
    · rw [Registry.analyze_eq]
      decide +kernel
  obtain ⟨-, -, analyses⟩ := layout_does_not_influence_analysis leftFrozen rightFrozen equal
  obtain ⟨registry, built, same⟩ := analyses {} Unit ()
  rw [(Config.registry_eq_after {} Unit).1] at built
  cases built
  exact ⟨left, right, leftFrozen, rightFrozen, equal, different, _,
    (Config.registry_eq_after {} Unit).1, reported, same⟩

end TreeLint
