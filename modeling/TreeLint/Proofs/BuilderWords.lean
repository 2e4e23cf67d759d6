import TreeLint.Proofs.BuilderRuns
import TreeLint.Proofs.Terms

/-!
# The words that a builder accepts

The calls that build a term are its word: a token is one call, a compound node
is opened, its slots follow in order, and it is closed.  A builder accepts
exactly the words of single terms.  Calls that are refused do not count, and
every other sequence is complained about when the tree is frozen.

A builder is compared with a sketch, which holds terms in place of indices.
The sketch after a run spells the word of the calls that were not refused, and
running the word of a term adds this term to the sketch.
-/

namespace TreeLint

namespace Term

mutual

/-- The calls that build a term. -/
def word : Term → List BuildCall
  | .token kind text line column => [.token kind text line column]
  | .compound kind slots => .start kind :: (slotWords slots ++ [.finish])

/-- The calls that fill slots. -/
def slotWords : List (Option Term) → List BuildCall
  | [] => []
  | none :: rest => .missing :: slotWords rest
  | some term :: rest => term.word ++ slotWords rest

end

theorem slotWords_append (first second : List (Option Term)) :
    slotWords (first ++ second) = slotWords first ++ slotWords second := by
  induction first with
  | nil => rfl
  | cons slot rest ih => cases slot <;> simp [slotWords, ih]

end Term

/-! ## Sketches -/

/-- An open node with the terms in its slots so far. -/
structure OpenTerm where
  kind : Kind
  slots : List (Option Term)

/-- What a builder has been told: the open nodes, innermost first, and the
completed terms that stand in no slot. -/
structure Sketch where
  opened : List OpenTerm
  roots : List Term

namespace Sketch

def empty : Sketch := ⟨[], []⟩

/-- Puts a completed term into the innermost open node, or among the roots. -/
def add (sketch : Sketch) (term : Term) : Sketch :=
  match sketch.opened with
  | [] => { sketch with roots := sketch.roots ++ [term] }
  | node :: outer => { sketch with opened := ⟨node.kind, node.slots ++ [some term]⟩ :: outer }

/-- Makes one call; none where it is refused. -/
def call? (sketch : Sketch) : BuildCall → Option Sketch
  | .start kind => some { sketch with opened := ⟨kind, []⟩ :: sketch.opened }
  | .token kind text line column => some (sketch.add (.token kind text line column))
  | .missing =>
      match sketch.opened with
      | [] => none
      | node :: outer =>
          some { sketch with opened := ⟨node.kind, node.slots ++ [none]⟩ :: outer }
  | .finish =>
      match sketch.opened with
      | [] => none
      | node :: outer =>
          some (add { sketch with opened := outer } (.compound node.kind node.slots))

/-- Makes all calls in turn; none where one of them is refused. -/
def callAll? (sketch : Sketch) (calls : List BuildCall) : Option Sketch :=
  calls.foldlM call? sketch

/-- The calls that an open node has taken so far. -/
def openWord (node : OpenTerm) : List BuildCall :=
  .start node.kind :: Term.slotWords node.slots

/-- The calls that lead to a sketch. -/
def word (sketch : Sketch) : List BuildCall :=
  sketch.roots.flatMap Term.word ++ sketch.opened.reverse.flatMap openWord

theorem word_add (sketch : Sketch) (term : Term) :
    (sketch.add term).word = sketch.word ++ term.word := by
  obtain ⟨opened, roots⟩ := sketch
  cases opened with
  | nil => simp [add, word]
  | cons node outer =>
      simp [add, word, openWord, Term.slotWords_append, Term.slotWords]

theorem word_call? {sketch next : Sketch} {call : BuildCall}
    (made : sketch.call? call = some next) : next.word = sketch.word ++ [call] := by
  obtain ⟨opened, roots⟩ := sketch
  cases call with
  | start kind =>
      cases made
      simp [word, openWord, Term.slotWords]
  | token kind text line column =>
      cases made
      exact word_add _ _
  | missing =>
      cases opened with
      | nil => simp [call?] at made
      | cons node outer =>
          cases made
          simp [word, openWord, Term.slotWords_append, Term.slotWords]
  | finish =>
      cases opened with
      | nil => simp [call?] at made
      | cons node outer =>
          cases made
          rw [word_add]
          simp [word, openWord, Term.word]

theorem callAll?_slotWords {slots : List (Option Term)}
    (words : ∀ term, some term ∈ slots →
      ∀ sketch : Sketch, sketch.callAll? term.word = some (sketch.add term))
    (node : OpenTerm) (outer : List OpenTerm) (roots : List Term) :
    callAll? ⟨node :: outer, roots⟩ (Term.slotWords slots) =
      some ⟨⟨node.kind, node.slots ++ slots⟩ :: outer, roots⟩ := by
  induction slots generalizing node with
  | nil => simp [Term.slotWords, callAll?]
  | cons slot rest ih =>
      have later := fun term member => words term (List.mem_cons_of_mem _ member)
      cases slot with
      | none =>
          have filled := ih later ⟨node.kind, node.slots ++ [none]⟩
          simpa [Term.slotWords, callAll?, call?] using filled
      | some term =>
          have taken := words term List.mem_cons_self ⟨node :: outer, roots⟩
          have filled := ih later ⟨node.kind, node.slots ++ [some term]⟩
          rw [callAll?] at taken filled ⊢
          rw [Term.slotWords, List.foldlM_append, taken]
          simpa [add] using filled

/-- The word of a term adds this term to any sketch. -/
theorem callAll?_word (term : Term) (sketch : Sketch) :
    sketch.callAll? term.word = some (sketch.add term) := by
  induction term using Term.induction generalizing sketch with
  | token kind text line column => simp [Term.word, callAll?, call?]
  | compound kind slots ih =>
      have filled := callAll?_slotWords ih ⟨kind, []⟩ sketch.opened sketch.roots
      rw [callAll?] at filled ⊢
      rw [Term.word, List.foldlM_cons]
      simp [call?, filled, List.foldlM_append]

end Sketch

theorem Term.word_injective {first second : Term} (same : first.word = second.word) :
    first = second := by
  have built := Sketch.callAll?_word first Sketch.empty
  rw [same, Sketch.callAll?_word second] at built
  simpa [Sketch.add, Sketch.empty] using built.symm

/-! ## The sketch of a builder -/

namespace Builder

/-- The builder with terms in place of indices. -/
def sketch (builder : Builder) : Sketch where
  opened := builder.opened.map fun node =>
    ⟨node.kind, slotTerms builder.nodes builder.childrenFirst node.slots⟩
  roots := builder.roots.toList.map (termAt builder.nodes builder.childrenFirst)

theorem sketch_eq {builder : Builder} {nodes : Array NodeData} (first : ChildrenFirst nodes)
    (same : builder.nodes = nodes) :
    builder.sketch =
      ⟨builder.opened.map fun node => ⟨node.kind, slotTerms nodes first node.slots⟩,
        builder.roots.toList.map (termAt nodes first)⟩ := by
  subst same
  rfl

theorem sketch_empty : empty.sketch = Sketch.empty := rfl

theorem opened_of_sketch {builder : Builder} (closed : builder.sketch.opened = []) :
    builder.opened = [] :=
  List.map_eq_nil_iff.mp closed

theorem termAt_complete_token {nodes : Array NodeData} {kind : Kind} {text : String}
    {position : Position} (grown : ChildrenFirst (nodes.push (.token kind text position))) :
    termAt _ grown nodes.size = .token kind text position.line position.column :=
  termAt_token grown Array.getElem?_push_size

theorem termAt_complete_compound {nodes : Array NodeData} {kind : Kind}
    {slots : Array (Option Nat)} (first : ChildrenFirst nodes)
    (below : SlotsBelow slots nodes.size)
    (grown : ChildrenFirst (nodes.push (.compound kind slots))) :
    termAt _ grown nodes.size = .compound kind (slotTerms nodes first slots) := by
  rw [termAt_compound grown Array.getElem?_push_size, slotTerms_push first grown below]

/-- Completing a node adds its term to the sketch and changes nothing else. -/
theorem sketch_complete (builder : Builder) (data : NodeData)
    (below : SlotsBelow data.slots builder.nodes.size) :
    (builder.complete data below).sketch =
      builder.sketch.add (termAt (builder.nodes.push data)
        (childrenFirst_push builder.childrenFirst below) builder.nodes.size) := by
  have grown := childrenFirst_push builder.childrenFirst below
  have oldRoots : builder.roots.toList.map (termAt _ grown) =
      builder.roots.toList.map (termAt _ builder.childrenFirst) := by
    refine List.map_congr_left fun root isRoot => ?_
    exact termAt_push builder.childrenFirst grown
      (builder.rootsBelow root (Array.mem_toList_iff.mp isRoot))
  have oldSlots : ∀ node ∈ builder.opened, slotTerms _ grown node.slots =
      slotTerms _ builder.childrenFirst node.slots := fun node isOpen =>
    slotTerms_push builder.childrenFirst grown (builder.openedBelow node isOpen)
  rw [sketch_eq grown (complete_nodes data below)]
  cases opened : builder.opened with
  | nil =>
      obtain ⟨stillClosed, roots⟩ := complete_of_closed data below opened
      simp [sketch, Sketch.add, stillClosed, roots, opened, oldRoots]
  | cons node outer =>
      obtain ⟨filled, roots⟩ := complete_of_open data below opened
      have outerSlots : outer.map (fun node => OpenTerm.mk node.kind
            (slotTerms _ grown node.slots)) =
          outer.map fun node => OpenTerm.mk node.kind
            (slotTerms _ builder.childrenFirst node.slots) := by
        refine List.map_congr_left fun frame isOuter => ?_
        rw [oldSlots frame (by simp [opened, isOuter])]
      simp [sketch, Sketch.add, filled, roots, opened, oldRoots, outerSlots,
        oldSlots node (by simp [opened])]

/-- A call is refused by a builder exactly where it is refused by its sketch;
otherwise both go on alike. -/
theorem sketch_call (builder : Builder) (call : BuildCall) :
    builder.sketch.call? call =
      match (builder.call call).1 with
      | .ok _ => some (builder.call call).2.sketch
      | .error _ => none := by
  cases call with
  | start kind => rfl
  | token kind text line column =>
      have completed := sketch_complete builder (.token kind text ⟨line, column⟩)
        (SlotsBelow.empty _)
      rw [termAt_complete_token] at completed
      simpa [Builder.call, token, Sketch.call?] using completed.symm
  | missing =>
      cases opened : builder.opened with
      | nil =>
          simp [Builder.call, missing_of_closed opened, Sketch.call?, sketch, opened, Except.map]
      | cons node outer =>
          obtain ⟨answer, nodes, filled, roots⟩ := missing_of_open opened
          rw [Builder.call]
          simp only [answer, Except.map]
          rw [sketch_eq builder.childrenFirst nodes]
          simp [Sketch.call?, sketch, opened, filled, roots]
  | finish =>
      cases opened : builder.opened with
      | nil =>
          simp [Builder.call, finishNode_of_closed opened, Sketch.call?, sketch, opened,
            Except.map]
      | cons node outer =>
          have below := builder.openedBelow node (by simp [opened])
          have completed := sketch_complete (builder.leaveInnermost opened)
            (.compound node.kind node.slots) below
          rw [termAt_complete_compound (builder.leaveInnermost opened).childrenFirst below]
            at completed
          simp only [Builder.call, finishNode_of_open opened, Except.map, Sketch.call?]
          rw [completed]
          simp [sketch, leaveInnermost, opened]

/-! ## Accepted calls -/

/-- The calls of a run that are not refused. -/
def accepted (builder : Builder) : List BuildCall → List BuildCall
  | [] => []
  | call :: rest =>
      match builder.call call with
      | (.ok _, next) => call :: next.accepted rest
      | (.error _, next) => next.accepted rest

theorem accepted_cons_ok {builder : Builder} {call : BuildCall} {answer : Option Nat}
    (made : (builder.call call).1 = .ok answer) (rest : List BuildCall) :
    builder.accepted (call :: rest) = call :: (builder.call call).2.accepted rest := by
  rw [accepted]
  cases answered : builder.call call with
  | mk first next =>
      rw [answered] at made
      subst made
      rfl

theorem accepted_cons_refused {builder : Builder} {call : BuildCall} {error : Error}
    (refused : (builder.call call).1 = .error error) (rest : List BuildCall) :
    builder.accepted (call :: rest) = builder.accepted rest := by
  have unchanged := (call_refused refused).2.2
  rw [accepted]
  cases answered : builder.call call with
  | mk first next =>
      rw [answered] at refused unchanged
      subst refused unchanged
      rfl

theorem callAll_accepted (builder : Builder) (calls : List BuildCall) :
    builder.callAll (builder.accepted calls) = builder.callAll calls := by
  induction calls generalizing builder with
  | nil => rfl
  | cons call rest ih =>
      cases answer : (builder.call call).1 with
      | ok id => rw [accepted_cons_ok answer, callAll_cons, callAll_cons, ih]
      | error error =>
          rw [accepted_cons_refused answer, callAll_cons, (call_refused answer).2.2, ih]

/-- The sketch after a run spells the accepted calls. -/
theorem word_sketch_callAll (builder : Builder) (calls : List BuildCall) :
    (builder.callAll calls).sketch.word = builder.sketch.word ++ builder.accepted calls := by
  induction calls generalizing builder with
  | nil => simp [accepted]
  | cons call rest ih =>
      cases answer : (builder.call call).1 with
      | ok id =>
          have made := sketch_call builder call
          rw [answer] at made
          rw [callAll_cons, ih, Sketch.word_call? made, accepted_cons_ok answer,
            List.append_assoc, List.singleton_append]
      | error error =>
          rw [accepted_cons_refused answer, callAll_cons, (call_refused answer).2.2, ih]

theorem accepted_of_callAll? {builder : Builder} {calls : List BuildCall} {final : Sketch}
    (made : builder.sketch.callAll? calls = some final) :
    builder.accepted calls = calls ∧ (builder.callAll calls).sketch = final := by
  induction calls generalizing builder with
  | nil => exact ⟨rfl, by simpa [Sketch.callAll?] using made⟩
  | cons call rest ih =>
      rw [Sketch.callAll?, List.foldlM_cons, sketch_call] at made
      cases answer : (builder.call call).1 with
      | ok id =>
          rw [answer] at made
          obtain ⟨acceptedRest, ended⟩ := ih made
          rw [accepted_cons_ok answer, acceptedRest]
          exact ⟨rfl, ended⟩
      | error error => simp [answer] at made

/-- The word of a term is accepted by every builder, which then has this term
in addition. -/
theorem accepted_word (builder : Builder) (term : Term) :
    builder.accepted term.word = term.word ∧
      (builder.callAll term.word).sketch = builder.sketch.add term :=
  accepted_of_callAll? (Sketch.callAll?_word term builder.sketch)

/-! ## Freezing -/

theorem accepted_eq_word {calls : List BuildCall} {tree : Tree}
    (frozen : (empty.callAll calls).finish = .ok tree) :
    empty.accepted calls = (tree.term tree.root).word := by
  obtain ⟨closed, roots, nodes⟩ := finish_ok frozen
  have spelled := word_sketch_callAll empty calls
  rw [sketch_eq tree.childrenFirst nodes.symm, closed, roots] at spelled
  simpa [Sketch.word, sketch_empty, Sketch.empty, Tree.term] using spelled.symm

theorem finish_of_accepted {calls : List BuildCall} {term : Term}
    (isWord : empty.accepted calls = term.word) :
    ∃ tree, (empty.callAll calls).finish = .ok tree := by
  have sketched := (accepted_word empty term).2
  rw [← isWord, callAll_accepted, sketch_empty] at sketched
  have closed : (empty.callAll calls).opened = [] :=
    opened_of_sketch (by rw [sketched]; rfl)
  have oneRoot : (empty.callAll calls).roots.size = 1 := by
    have count := congrArg (fun sketch => sketch.roots.length) sketched
    simpa [sketch, Sketch.add, Sketch.empty] using count
  obtain ⟨root, isRoot⟩ := Array.size_eq_one_iff.mp oneRoot
  obtain ⟨tree, frozen, -, -⟩ := finish_of_root closed isRoot
  exact ⟨tree, frozen⟩

theorem call_refused_iff (builder : Builder) (call : BuildCall) :
    (∃ error, (builder.call call).1 = .error error) ↔
      builder.opened = [] ∧ (call = .missing ∨ call = .finish) := by
  constructor
  · rintro ⟨error, refused⟩
    obtain ⟨closed, which, -⟩ := call_refused refused
    exact ⟨closed, which⟩
  · rintro ⟨closed, rfl | rfl⟩
    · exact ⟨_, by rw [Builder.call, missing_of_closed closed]; rfl⟩
    · exact ⟨_, by rw [Builder.call, finishNode_of_closed closed]; rfl⟩

end Builder

/-- A builder accepts exactly the words of single terms.  A call is refused only
where an absent slot or a close stands outside of any node, and then the builder
stays as it was.  After any run, freezing succeeds if and only if the accepted
calls are the word of a term; this term is unique, and it is what the root of
the tree is captured as.  The word of every term is accepted call by call.  All
other runs end in a complaint about open nodes before one about the number of
roots. -/
theorem builder_accepts_exactly_words :
    (∀ (builder : Builder) (call : BuildCall),
      ((∃ error, (builder.call call).1 = .error error) ↔
        builder.opened = [] ∧ (call = .missing ∨ call = .finish)) ∧
      ∀ error, (builder.call call).1 = .error error → (builder.call call).2 = builder) ∧
    (∀ calls : List BuildCall,
      (∃ tree, (Builder.after calls).finish = .ok tree) ↔
        ∃ term : Term, Builder.empty.accepted calls = term.word) ∧
    (∀ (calls : List BuildCall) (tree : Tree), (Builder.after calls).finish = .ok tree →
      ∃ term : Term, Builder.empty.accepted calls = term.word ∧
        tree.capture tree.root = term.raw ∧
        ∀ other : Term, Builder.empty.accepted calls = other.word → other = term) ∧
    (∀ term : Term, Builder.empty.accepted term.word = term.word ∧
      ∃ tree, (Builder.after term.word).finish = .ok tree ∧
        tree.capture tree.root = term.raw) ∧
    (∀ (calls : List BuildCall) (error : Error), (Builder.after calls).finish = .error error ↔
      (∃ node outer, (Builder.after calls).opened = node :: outer ∧
        error = .malformedTree (.leftOpen (outer.length + 1) node.kind)) ∨
      ((Builder.after calls).opened = [] ∧ (Builder.after calls).roots.size = 0 ∧
        error = .malformedTree .noRoot) ∨
      ((Builder.after calls).opened = [] ∧ 2 ≤ (Builder.after calls).roots.size ∧
        error = .malformedTree (.severalRoots (Builder.after calls).roots.size))) := by
  refine ⟨fun builder call => ⟨builder.call_refused_iff call, ?_⟩, ?_, ?_, ?_, ?_⟩
  · intro error refused
    exact (Builder.call_refused refused).2.2
  · intro calls
    constructor
    · rintro ⟨tree, frozen⟩
      exact ⟨tree.term tree.root, Builder.accepted_eq_word frozen⟩
    · rintro ⟨term, isWord⟩
      exact Builder.finish_of_accepted isWord
  · intro calls tree frozen
    have isWord := Builder.accepted_eq_word frozen
    refine ⟨tree.term tree.root, isWord, tree.capture_eq_raw_term tree.root, ?_⟩
    intro other otherWord
    exact Term.word_injective (otherWord.symm.trans isWord)
  · intro term
    have isWord := (Builder.empty.accepted_word term).1
    obtain ⟨tree, frozen⟩ := Builder.finish_of_accepted isWord
    have same := Term.word_injective (isWord.symm.trans (Builder.accepted_eq_word frozen))
    exact ⟨isWord, tree, frozen, by rw [tree.capture_eq_raw_term, ← same]⟩
  · intro calls error
    exact (Builder.after calls).finish_error_iff error

theorem bareReturn_accepted :
    ∃ tree, (Builder.after bareReturn).finish = .ok tree ∧
      Builder.empty.accepted bareReturn =
        [.start .returnStatement, .token .returnKw "return" 1 0, .missing,
          .token .semicolon ";" 1 6, .finish] ∧
      ∃ term : Term, Builder.empty.accepted bareReturn = term.word ∧
        tree.capture tree.root = term.raw := by
  refine ⟨_, rfl, rfl, ?_⟩
  obtain ⟨-, -, captured, -, -⟩ := builder_accepts_exactly_words
  obtain ⟨term, isWord, isCaptured, -⟩ := captured bareReturn _ rfl
  exact ⟨term, isWord, isCaptured⟩

end TreeLint
