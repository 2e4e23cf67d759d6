import TreeLint.Proofs.TreeRoundTrip

/-!
# Which raw trees can be frozen

A raw tree is well shaped if each of its nodes with text is a proper token: it
has no children and knows its line and column.  Freezing accepts exactly the
well-shaped raw trees and gives them back without the lines and columns of
compound nodes.  Otherwise the first improper node in pre-order decides the
complaint.

Freezing works off a stack of steps on a builder, and what a step asks of the
builder could be refused where no node is open.  This never happens: the pending
steps close only nodes that are open when their turn comes.
-/

namespace TreeLint

namespace RawNode

/-! ## Proper nodes -/

mutual

/-- The nodes of a raw tree in pre-order. -/
def nodes : RawNode → List RawNode
  | .mk kind children text line column =>
      .mk kind children text line column :: slotNodes children

def slotNodes : List (Option RawNode) → List RawNode
  | [] => []
  | none :: rest => slotNodes rest
  | some raw :: rest => raw.nodes ++ slotNodes rest

end

theorem slotNodes_append (first second : List (Option RawNode)) :
    slotNodes (first ++ second) = slotNodes first ++ slotNodes second := by
  induction first with
  | nil => rfl
  | cons slot rest ih => cases slot <;> simp [slotNodes, ih]

theorem mem_slotNodes {slots : List (Option RawNode)} {raw node : RawNode}
    (isSlot : some raw ∈ slots) (isNode : node ∈ raw.nodes) : node ∈ slotNodes slots := by
  obtain ⟨before, after, rfl⟩ := List.append_of_mem isSlot
  rw [slotNodes_append, slotNodes]
  simp [isNode]

/-- A node with text has no children, and it has a line and a column. -/
def Proper (raw : RawNode) : Prop :=
  raw.text.isSome → raw.children = [] ∧ raw.line.isSome ∧ raw.column.isSome

def WellShaped (raw : RawNode) : Prop :=
  ∀ node ∈ raw.nodes, node.Proper

/-- What is wrong with a node, whatever stands below it. -/
def complaint? : RawNode → Option Malformation
  | .mk _ _ none _ _ => none
  | .mk kind (_ :: _) (some text) _ _ => some (.tokenWithChildren text kind)
  | .mk _ [] (some _) (some _) (some _) => none
  | .mk kind [] (some text) _ _ => some (.tokenWithoutPosition text kind)

theorem complaint?_eq_none_iff (raw : RawNode) : raw.complaint? = none ↔ raw.Proper := by
  obtain ⟨kind, children, text, line, column⟩ := raw
  cases text with
  | none => simp [complaint?, Proper, RawNode.text]
  | some text =>
      cases children with
      | cons slot rest => simp [complaint?, Proper, RawNode.text, RawNode.children]
      | nil =>
          cases line <;> cases column <;>
            simp [complaint?, Proper, RawNode.text, RawNode.children, RawNode.line,
              RawNode.column]

instance (raw : RawNode) : Decidable raw.Proper :=
  decidable_of_iff _ raw.complaint?_eq_none_iff

instance (raw : RawNode) : Decidable raw.WellShaped :=
  inferInstanceAs (Decidable (∀ node ∈ raw.nodes, node.Proper))

theorem complaint?_eq_some_iff (raw : RawNode) (cause : Malformation) :
    raw.complaint? = some cause ↔
      ∃ text, raw.text = some text ∧
        ((raw.children ≠ [] ∧ cause = .tokenWithChildren text raw.kind) ∨
          (raw.children = [] ∧ (raw.line = none ∨ raw.column = none) ∧
            cause = .tokenWithoutPosition text raw.kind)) := by
  obtain ⟨kind, children, text, line, column⟩ := raw
  cases text with
  | none => simp [complaint?, RawNode.text]
  | some text =>
      cases children with
      | cons slot rest =>
          simp [complaint?, RawNode.text, RawNode.children, RawNode.kind, eq_comm]
      | nil =>
          cases line <;> cases column <;>
            simp [complaint?, RawNode.text, RawNode.children, RawNode.kind, RawNode.line,
              RawNode.column, eq_comm]

def firstComplaint? (nodes : List RawNode) : Option Malformation :=
  nodes.findSome? complaint?

/-- A node is looked at before its children, and these before what follows. -/
theorem firstComplaint?_slotNodes_some (raw : RawNode) (rest : List (Option RawNode)) :
    firstComplaint? (slotNodes (some raw :: rest)) =
      raw.complaint?.or (firstComplaint? (slotNodes (raw.children ++ rest))) := by
  obtain ⟨kind, children, text, line, column⟩ := raw
  rw [slotNodes, nodes, List.cons_append, ← slotNodes_append, firstComplaint?,
    List.findSome?_cons]
  cases (RawNode.mk kind children text line column).complaint? <;> rfl

theorem wellShaped_iff (raw : RawNode) : raw.WellShaped ↔ firstComplaint? raw.nodes = none := by
  rw [firstComplaint?, List.findSome?_eq_none_iff, WellShaped]
  simp only [complaint?_eq_none_iff]

end RawNode

/-! ## The steps never leave the open nodes -/

namespace Builder

theorem length_opened_complete (builder : Builder) (data : NodeData)
    (below : SlotsBelow data.slots builder.nodes.size) :
    (builder.complete data below).opened.length = builder.opened.length := by
  cases opened : builder.opened with
  | nil => rw [(complete_of_closed data below opened).1]
  | cons node outer =>
      rw [(complete_of_open data below opened).1]
      rfl

theorem finishNode_inside {builder : Builder} (inside : 0 < builder.opened.length) :
    ∃ id next, builder.finishNode = (.ok id, next) ∧
      next.opened.length = builder.opened.length - 1 := by
  obtain ⟨node, outer, opened⟩ := List.exists_cons_of_length_pos inside
  refine ⟨_, _, finishNode_of_open opened, ?_⟩
  have kept := length_opened_complete (builder.leaveInnermost opened)
    (.compound node.kind node.slots) (builder.openedBelow node (by simp [opened]))
  rw [kept, opened]
  rfl

theorem missing_inside {builder : Builder} (inside : 0 < builder.opened.length) :
    ∃ next, builder.missing = (.ok (), next) ∧
      next.opened.length = builder.opened.length := by
  obtain ⟨node, outer, opened⟩ := List.exists_cons_of_length_pos inside
  obtain ⟨answer, -, filled, -⟩ := missing_of_open opened
  refine ⟨_, Prod.ext answer rfl, ?_⟩
  rw [filled, opened]
  rfl

end Builder

namespace RawNode

/-- With `depth` nodes open, every close and every absent slot among the pending
steps finds an open node. -/
def Sheltered : Nat → List BuildStep → Prop
  | _, [] => True
  | depth, .close :: rest => 0 < depth ∧ Sheltered (depth - 1) rest
  | depth, .enter none :: rest => 0 < depth ∧ Sheltered depth rest
  | depth, .enter (some _) :: rest => Sheltered depth rest

theorem sheltered_enterAll (slots : List (Option RawNode)) (rest : List BuildStep) {depth : Nat}
    (sheltered : Sheltered depth rest) (inside : 0 < depth) :
    Sheltered depth (BuildStep.enterAll slots ++ rest) := by
  induction slots with
  | nil => exact sheltered
  | cons slot slots ih =>
      cases slot with
      | none => exact ⟨inside, ih⟩
      | some raw => exact ih

/-- The first improper node that the pending steps still enter ends the work. -/
theorem buildFrom_eq_error {steps : List BuildStep} {builder : Builder} {cause : Malformation}
    (sheltered : Sheltered builder.opened.length steps)
    (first : firstComplaint? (slotNodes (BuildStep.entered steps)) = some cause) :
    buildFrom steps builder = .error (.malformedTree cause) := by
  -- Refusals of the builder (cases 3 and 5) contradict the shelter; the other
  -- cases carry it to the steps that remain.
  fun_induction buildFrom steps builder with
  | case1 builder => simp [BuildStep.entered, slotNodes, firstComplaint?] at first
  | case2 builder rest id next closed ih =>
      obtain ⟨_, _, made, shorter⟩ := Builder.finishNode_inside sheltered.1
      rw [made] at closed
      cases closed
      exact ih (shorter ▸ sheltered.2) first
  | case3 builder rest error next refused =>
      obtain ⟨_, _, made, -⟩ := Builder.finishNode_inside sheltered.1
      rw [made] at refused
      cases refused
  | case4 builder rest answer next filled ih =>
      obtain ⟨_, made, same⟩ := Builder.missing_inside sheltered.1
      rw [made] at filled
      cases filled
      exact ih (same ▸ sheltered.2) first
  | case5 builder rest error next refused =>
      obtain ⟨_, made, -⟩ := Builder.missing_inside sheltered.1
      rw [made] at refused
      cases refused
  | case6 builder kind children text line column rest someChild =>
      cases children with
      | nil => simp at someChild
      | cons slot slots =>
          rw [BuildStep.entered_enter, firstComplaint?_slotNodes_some] at first
          cases first
          rfl
  | case7 builder kind children text rest noChild line column ih =>
      cases children with
      | cons slot slots => simp at noChild
      | nil =>
          have same := builder.length_opened_complete (.token kind text ⟨line, column⟩)
            (SlotsBelow.empty _)
          rw [BuildStep.entered_enter, firstComplaint?_slotNodes_some] at first
          exact ih (same ▸ sheltered) first
  | case8 builder kind children text line column rest noChild noPlace =>
      cases children with
      | cons slot slots => simp at noChild
      | nil =>
          have improper : (RawNode.mk kind [] (some text) line column).complaint? =
              some (.tokenWithoutPosition text kind) := by
            cases line with
            | none => rfl
            | some line =>
                cases column with
                | none => rfl
                | some column => exact (noPlace line column rfl rfl).elim
          rw [BuildStep.entered_enter, firstComplaint?_slotNodes_some, improper] at first
          cases first
          rfl
  | case9 builder kind children line column rest ih =>
      rw [BuildStep.entered_enter, firstComplaint?_slotNodes_some] at first
      apply ih
      · exact sheltered_enterAll children (.close :: rest)
          ⟨Nat.succ_pos _, sheltered⟩ (Nat.succ_pos _)
      · rw [BuildStep.entered_append, BuildStep.entered_enterAll, BuildStep.entered_close]
        exact first

/-! ## Lines and columns of compound nodes do not matter -/

/-- The raw tree without the lines and columns of nodes that have no text. -/
def normalized (raw : RawNode) : RawNode :=
  raw.keepPlaces Option.isSome

theorem normalized_token (kind : Kind) (children : List (Option RawNode)) (text : String)
    (line column : Option UInt32) :
    (RawNode.mk kind children (some text) line column).normalized =
      .mk kind (children.map (Option.map normalized)) (some text) line column := by
  rw [normalized, keepPlaces, keepSlotPlaces_eq_map]
  rfl

theorem normalized_compound (kind : Kind) (children : List (Option RawNode))
    (line column : Option UInt32) :
    (RawNode.mk kind children none line column).normalized =
      .node kind (children.map (Option.map normalized)) := by
  rw [normalized, keepPlaces, keepSlotPlaces_eq_map]
  rfl

def BuildStep.normalized : BuildStep → BuildStep
  | .enter slot => .enter (slot.map RawNode.normalized)
  | .close => .close

theorem map_normalized_enterAll (slots : List (Option RawNode)) :
    (BuildStep.enterAll slots).map BuildStep.normalized =
      BuildStep.enterAll (slots.map (Option.map RawNode.normalized)) := by
  simp [BuildStep.enterAll, BuildStep.normalized, Function.comp_def]

/-- Normalizing the raw trees that are still to be entered changes nothing. -/
theorem buildFrom_normalized (steps : List BuildStep) (builder : Builder) :
    buildFrom (steps.map BuildStep.normalized) builder = buildFrom steps builder := by
  fun_induction buildFrom steps builder with
  | case1 builder => rw [List.map_nil, buildFrom]
  | case2 builder rest id next closed ih =>
      rw [List.map_cons, BuildStep.normalized, buildFrom, closed]
      exact ih
  | case3 builder rest error next refused =>
      rw [List.map_cons, BuildStep.normalized, buildFrom, refused]
  | case4 builder rest answer next filled ih =>
      rw [List.map_cons, BuildStep.normalized, Option.map_none, buildFrom, filled]
      exact ih
  | case5 builder rest error next refused =>
      rw [List.map_cons, BuildStep.normalized, Option.map_none, buildFrom, refused]
  | case6 builder kind children text line column rest someChild =>
      rw [List.map_cons, BuildStep.normalized, Option.map_some, normalized_token]
      cases line <;> cases column <;> simp [buildFrom, someChild]
  | case7 builder kind children text rest noChild line column ih =>
      rw [List.map_cons, BuildStep.normalized, Option.map_some, normalized_token, buildFrom,
        List.isEmpty_map, if_neg noChild]
      exact ih
  | case8 builder kind children text line column rest noChild noPlace =>
      rw [List.map_cons, BuildStep.normalized, Option.map_some, normalized_token, buildFrom,
        List.isEmpty_map, if_neg noChild]
      exact noPlace
  | case9 builder kind children line column rest ih =>
      rw [List.map_cons, BuildStep.normalized, Option.map_some, normalized_compound, node,
        buildFrom]
      rw [List.map_append, map_normalized_enterAll] at ih
      exact ih

theorem toTree_normalized (raw : RawNode) : raw.normalized.toTree = raw.toTree := by
  have same := buildFrom_normalized [.enter (some raw)] .empty
  rw [List.map_cons, BuildStep.normalized, Option.map_some, List.map_nil] at same
  rw [toTree, same, toTree]

/-! ## Well-shaped raw trees are terms -/

mutual

/-- The term of a raw tree.  It only matters for well-shaped ones. -/
def term : RawNode → Term
  | .mk kind _ (some text) line column => .token kind text (line.getD 0) (column.getD 0)
  | .mk kind children none _ _ => .compound kind (slotTerms children)

def slotTerms : List (Option RawNode) → List (Option Term)
  | [] => []
  | none :: rest => none :: slotTerms rest
  | some raw :: rest => some raw.term :: slotTerms rest

end

theorem slotTerms_eq_map (slots : List (Option RawNode)) :
    slotTerms slots = slots.map (Option.map term) := by
  induction slots with
  | nil => rfl
  | cons slot rest ih => cases slot <;> simp [slotTerms, ih]

theorem WellShaped.child {kind : Kind} {children : List (Option RawNode)} {text : Option String}
    {line column : Option UInt32} {child : RawNode}
    (shaped : (RawNode.mk kind children text line column).WellShaped)
    (isChild : some child ∈ children) : child.WellShaped := by
  intro node isNode
  apply shaped
  rw [nodes]
  exact List.mem_cons_of_mem _ (mem_slotNodes isChild isNode)

theorem raw_term {raw : RawNode} (shaped : raw.WellShaped) : raw.term.raw = raw.normalized := by
  induction raw using RawNode.induction with
  | mk kind children text line column ih =>
      cases text with
      | some text =>
          have proper := shaped (.mk kind children (some text) line column) (by simp [nodes]) rfl
          obtain ⟨noChild, hasLine, hasColumn⟩ := proper
          obtain ⟨line, rfl⟩ := Option.isSome_iff_exists.mp hasLine
          obtain ⟨column, rfl⟩ := Option.isSome_iff_exists.mp hasColumn
          cases noChild
          rw [normalized_token]
          rfl
      | none =>
          rw [normalized_compound, term, Term.raw, Term.rawSlots_eq_map, slotTerms_eq_map,
            List.map_map]
          congr 1
          refine List.map_congr_left ?_
          intro slot isSlot
          cases slot with
          | none => rfl
          | some child => exact congrArg some (ih child isSlot (shaped.child isSlot))

/-! ## Freezing -/

theorem toTree_raw_captured (term : Term) :
    ∃ tree, term.raw.toTree = .ok tree ∧ tree.capture tree.root = term.raw := by
  have isWord := (Builder.empty.accepted_word term).1
  obtain ⟨tree, frozen⟩ := Builder.finish_of_accepted isWord
  have sameWord : (tree.term tree.root).word = term.word :=
    (Builder.accepted_eq_word frozen).symm.trans isWord
  refine ⟨tree, (toTree_raw term).trans frozen, ?_⟩
  rw [tree.capture_eq_raw_term, Term.word_injective sameWord]

theorem toTree_of_wellShaped {raw : RawNode} (shaped : raw.WellShaped) :
    ∃ tree, raw.toTree = .ok tree ∧ tree.capture tree.root = raw.normalized := by
  obtain ⟨tree, frozen, captured⟩ := toTree_raw_captured raw.term
  rw [raw_term shaped] at frozen captured
  exact ⟨tree, raw.toTree_normalized ▸ frozen, captured⟩

theorem toTree_of_complaint {raw : RawNode} {cause : Malformation}
    (first : firstComplaint? raw.nodes = some cause) :
    raw.toTree = .error (.malformedTree cause) := by
  have pending : slotNodes (BuildStep.entered [.enter (some raw)]) = raw.nodes := by
    rw [BuildStep.entered_enter, slotNodes]
    exact List.append_nil _
  have failed : buildFrom [.enter (some raw)] .empty = .error (.malformedTree cause) :=
    buildFrom_eq_error trivial (pending ▸ first)
  rw [toTree, failed]

theorem toTree_error_iff (raw : RawNode) (error : Error) :
    raw.toTree = .error error ↔
      ∃ cause, firstComplaint? raw.nodes = some cause ∧ error = .malformedTree cause := by
  constructor
  · intro failed
    cases first : firstComplaint? raw.nodes with
    | none =>
        obtain ⟨tree, frozen, -⟩ := toTree_of_wellShaped (raw.wellShaped_iff.mpr first)
        rw [frozen] at failed
        cases failed
    | some cause =>
        rw [toTree_of_complaint first] at failed
        cases failed
        exact ⟨cause, rfl, rfl⟩
  · rintro ⟨cause, first, rfl⟩
    exact toTree_of_complaint first

theorem wellShaped_of_toTree {raw : RawNode} {tree : Tree} (frozen : raw.toTree = .ok tree) :
    raw.WellShaped := by
  rw [wellShaped_iff, Option.eq_none_iff_forall_ne_some]
  intro cause first
  rw [toTree_of_complaint first] at frozen
  cases frozen

end RawNode

/-- Freezing accepts exactly the well-shaped raw trees, and the tree is captured
as the raw tree without the lines and columns of compound nodes.  Every error is
about the first node in pre-order that is not proper: it has text and children,
or it has text and lacks a line or a column. -/
theorem toTree_accepts_exactly_wellShaped (raw : RawNode) :
    ((∃ tree, raw.toTree = .ok tree) ↔ raw.WellShaped) ∧
    (∀ tree, raw.toTree = .ok tree → tree.capture tree.root = raw.normalized) ∧
    (∀ error, raw.toTree = .error error ↔
      ∃ before offender after text,
        raw.nodes = before ++ offender :: after ∧ (∀ node ∈ before, node.Proper) ∧
        offender.text = some text ∧
        ((offender.children ≠ [] ∧
            error = .malformedTree (.tokenWithChildren text offender.kind)) ∨
          (offender.children = [] ∧ (offender.line = none ∨ offender.column = none) ∧
            error = .malformedTree (.tokenWithoutPosition text offender.kind)))) ∧
    ∀ (text : String) (kind : Kind),
      (Error.malformedTree (.tokenWithChildren text kind)).message =
        "Malformed tree: " ++ ("token '" ++ text ++ "' of kind '" ++ kind.name ++
          "' must not have children") ∧
      (Error.malformedTree (.tokenWithoutPosition text kind)).message =
        "Malformed tree: " ++ ("token '" ++ text ++ "' of kind '" ++ kind.name ++
          "' has no line/column") := by
  refine ⟨⟨?_, ?_⟩, ?_, ?_, ?_⟩
  · rintro ⟨tree, frozen⟩
    exact RawNode.wellShaped_of_toTree frozen
  · intro shaped
    obtain ⟨tree, frozen, -⟩ := RawNode.toTree_of_wellShaped shaped
    exact ⟨tree, frozen⟩
  · intro tree frozen
    obtain ⟨same, sameFrozen, captured⟩ :=
      RawNode.toTree_of_wellShaped (RawNode.wellShaped_of_toTree frozen)
    rw [frozen] at sameFrozen
    cases sameFrozen
    exact captured
  · intro error
    rw [RawNode.toTree_error_iff]
    simp only [RawNode.firstComplaint?, List.findSome?_eq_some_iff,
      RawNode.complaint?_eq_none_iff, RawNode.complaint?_eq_some_iff]
    constructor
    · rintro ⟨cause, ⟨before, offender, after, split, ⟨text, hasText, blamed⟩, proper⟩, rfl⟩
      refine ⟨before, offender, after, text, split, proper, hasText, ?_⟩
      rcases blamed with ⟨someChild, rfl⟩ | ⟨noChild, noPlace, rfl⟩
      · exact .inl ⟨someChild, rfl⟩
      · exact .inr ⟨noChild, noPlace, rfl⟩
    · rintro ⟨before, offender, after, text, split, proper, hasText, blamed⟩
      rcases blamed with ⟨someChild, rfl⟩ | ⟨noChild, noPlace, rfl⟩
      · exact ⟨_, ⟨before, offender, after, split, ⟨text, hasText, .inl ⟨someChild, rfl⟩⟩,
          proper⟩, rfl⟩
      · exact ⟨_, ⟨before, offender, after, split,
          ⟨text, hasText, .inr ⟨noChild, noPlace, rfl⟩⟩, proper⟩, rfl⟩
  · intro text kind
    exact ⟨rfl, rfl⟩

/-- A well-shaped raw tree with places on its compound nodes. -/
def strayPlaces : RawNode :=
  .mk .returnStatement
    [some (.token .returnKw "return" 1 0), none, some (.mk .block [] none (some 7) none)]
    none (some 3) (some 4)

/-- Two improper nodes, of which the first has no column. -/
def twoOffenders : RawNode :=
  .node .block [some strayPlaces, some (.mk .ident [] (some "x") (some 1) none),
    some (.mk .ident [none] (some "y") none none)]

theorem strayPlaces_accepted :
    strayPlaces.WellShaped ∧
    (∃ tree, strayPlaces.toTree = .ok tree ∧
      tree.capture tree.root =
        .node .returnStatement
          [some (.token .returnKw "return" 1 0), none, some (.node .block [])]) ∧
    twoOffenders.toTree = .error (.malformedTree (.tokenWithoutPosition "x" .ident)) := by
  have shaped : strayPlaces.WellShaped := by decide
  obtain ⟨accepted, captured, -, -⟩ := toTree_accepts_exactly_wellShaped strayPlaces
  obtain ⟨-, -, failed, -⟩ := toTree_accepts_exactly_wellShaped twoOffenders
  obtain ⟨tree, frozen⟩ := accepted.mpr shaped
  refine ⟨shaped, ⟨tree, frozen, captured tree frozen⟩, (failed _).mpr ?_⟩
  exact ⟨[twoOffenders, strayPlaces, .token .returnKw "return" 1 0,
    .mk .block [] none (some 7) none], _, _, "x", rfl, by decide, rfl, .inr ⟨rfl, .inr rfl, rfl⟩⟩

end TreeLint
