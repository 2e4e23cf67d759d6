import TreeLint.Proofs.JumpReports
import TreeLint.Proofs.Siblings

/-!
# Where the built-in rule reports

A report is anchored at a statement, and the sibling before that statement holds
the jump whose first token the report quotes.  In a statement list this sibling is
the wrapper of the jump.  The rule does not ask for its kind, though: a jump that
stands directly below an `if` gives a report at the statement behind the `if`, in a
list to which the jump does not belong.  All reports stay in the list of their jump
exactly if every followed jump has a statement for its parent.
-/

namespace TreeLint

theorem exists_partner {α β : Type} {Related : α → β → Prop} {left : List α} {right : List β}
    (paired : List.Forall₂ Related left right) {item : α} (member : item ∈ left) :
    ∃ partner ∈ right, Related item partner := by
  induction paired with
  | nil => cases member
  | cons here _ ih =>
      rcases List.mem_cons.mp member with rfl | later
      · exact ⟨_, List.mem_cons_self, here⟩
      · obtain ⟨partner, found, related⟩ := ih later
        exact ⟨partner, List.mem_cons_of_mem _ found, related⟩

namespace CodeFollowingJump

/-- The report stands at a statement right behind a node that holds the jump which it
quotes. -/
structure StandsBehind (tree : Tree) (holder : Nat) (violation : Violation) : Prop where
  atStatement : tree.kind violation.anchor = .statement
  previous : tree.prevSibling? violation.anchor = some holder
  quotes : ∃ jump ∈ tree.children holder,
    tree.kind jump ∈ [Kind.breakStatement, .returnStatement, .continueStatement,
      .throwStatement] ∧
    ∃ keyword, tree.firstToken? jump = some keyword ∧ violation.parameters = [keyword.text]

/-- The report stays in the statement list of its jump: the node before it is a
statement, the wrapper of the jump. -/
def StaysInList (tree : Tree) (violation : Violation) : Prop :=
  ∃ wrapper, StandsBehind tree wrapper violation ∧ tree.kind wrapper = .statement

/-- There is only one node before the anchor, so its kind decides. -/
theorem StaysInList.kind_previous {tree : Tree} {violation : Violation} {holder : Nat}
    (stays : StaysInList tree violation)
    (previous : tree.prevSibling? violation.anchor = some holder) :
    tree.kind holder = .statement := by
  obtain ⟨wrapper, behind, isStatement⟩ := stays
  obtain rfl : wrapper = holder := Option.some.inj (behind.previous.symm.trans previous)
  exact isStatement

theorem exists_parent_of_followed {tree : Tree} {followed : Nat × Nat}
    (member : followed ∈ tree.followedJumps) :
    tree.kind followed.1 ∈ jumpKinds ∧ tree.kind followed.2 = .statement ∧
      ∃ parent, tree.parent? followed.1 = some parent ∧
        tree.nextSibling? parent = some followed.2 := by
  obtain ⟨jump, -, chosen⟩ := List.mem_filterMap.mp member
  split at chosen
  · rename_i isJump
    obtain ⟨parent, isParent, chosen⟩ := Option.bind_eq_some_iff.mp chosen
    obtain ⟨next, isNext, chosen⟩ := Option.bind_eq_some_iff.mp chosen
    split at chosen
    · rename_i isStatement
      cases chosen
      exact ⟨isJump, isStatement, parent, isParent, isNext⟩
    · cases chosen
  · cases chosen

theorem standsBehind_of_reports {tree : Tree} {builder : Builder}
    (frozen : tree.FrozenFrom builder) {followed : Nat × Nat} {violation : Violation}
    (member : followed ∈ tree.followedJumps) (reports : Reports tree followed violation) :
    ∃ parent, tree.parent? followed.1 = some parent ∧ StandsBehind tree parent violation := by
  obtain ⟨isJump, isStatement, parent, isParent, isNext⟩ := exists_parent_of_followed member
  obtain ⟨keyword, isFirst, rfl⟩ := reports
  have adjacent := (frozen.nextSibling?_eq_some_iff parent followed.2).mp isNext
  refine ⟨parent, isParent, isStatement, ?_, ?_⟩
  · exact (frozen.prevSibling?_eq_some_iff parent followed.2).mpr adjacent
  · exact ⟨followed.1, frozen.parent?_eq_some_iff.mp isParent, isJump, keyword, isFirst, rfl⟩

/-- A successful analysis reports nothing, or it reports the followed jumps one by one. -/
theorem reports_of_analyze {σ : Type} {config : Config} {registry : Registry σ}
    (built : config.registry σ = .ok registry) {fresh : σ} {tree : Tree}
    {violations : List Violation} (analyzed : registry.analyze fresh tree = .ok violations) :
    violations = [] ∨ List.Forall₂ (Reports tree) tree.followedJumps violations := by
  rw [(config.registry_eq_after σ).1, enabledChecks_eq] at built
  cases built
  split at analyzed
  · left
    have nothing := analyze_empty fresh tree
    exact Except.ok.inj (analyzed.symm.trans nothing)
  · right
    have gathered := (analyze_only fresh tree).symm.trans analyzed
    have outcome := gather_report tree tree.followedJumps
    split at outcome
    · rw [gathered] at outcome
      cases outcome
    · obtain ⟨reported, told, paired⟩ := outcome
      rw [gathered] at told
      cases told
      exact paired

/-- Reports about followed jumps stay in their lists exactly if the parents of these
jumps are statements. -/
theorem staysInList_iff {tree : Tree} {builder : Builder} (frozen : tree.FrozenFrom builder)
    {violations : List Violation}
    (paired : List.Forall₂ (Reports tree) tree.followedJumps violations) :
    (∀ violation ∈ violations, StaysInList tree violation) ↔
      ∀ followed ∈ tree.followedJumps, ∀ parent, tree.parent? followed.1 = some parent →
        tree.kind parent = .statement := by
  constructor
  · intro stays followed member parent isParent
    obtain ⟨violation, reported, reports⟩ := exists_partner paired member
    obtain ⟨holder, isHolder, behind⟩ := standsBehind_of_reports frozen member reports
    obtain rfl : holder = parent := Option.some.inj (isHolder.symm.trans isParent)
    exact (stays violation reported).kind_previous behind.previous
  · intro wrapped violation reported
    obtain ⟨followed, member, reports⟩ := exists_partner paired.flip reported
    obtain ⟨parent, isParent, behind⟩ := standsBehind_of_reports frozen member reports
    exact ⟨parent, behind, wrapped followed member parent isParent⟩

end CodeFollowingJump

/-- Every report of a successful analysis is anchored at a statement whose previous
sibling is present and holds a jump, and the first token of this jump is the parameter.
That the previous sibling is a statement, so that the report stays in the statement
list of the jump, holds for all reports exactly if there are none or if every followed
jump has a statement for its parent. -/
theorem reports_stand_behind_parents_of_jumps {calls : List BuildCall} {tree : Tree}
    (frozen : (Builder.after calls).finish = .ok tree) {σ : Type} {config : Config}
    {registry : Registry σ} (built : config.registry σ = .ok registry) {fresh : σ}
    {violations : List Violation} (analyzed : registry.analyze fresh tree = .ok violations) :
    (∀ violation ∈ violations, ∃ holder,
      CodeFollowingJump.StandsBehind tree holder violation) ∧
    ((∀ violation ∈ violations, CodeFollowingJump.StaysInList tree violation) ↔
      violations = [] ∨ ∀ followed ∈ tree.followedJumps, ∀ parent,
        tree.parent? followed.1 = some parent → tree.kind parent = .statement) := by
  have arranged := Tree.frozenFrom_of_finish frozen
  rcases CodeFollowingJump.reports_of_analyze built analyzed with rfl | paired
  · simp
  · have condition := CodeFollowingJump.staysInList_iff arranged paired
    constructor
    · intro violation reported
      obtain ⟨followed, member, reports⟩ := exists_partner paired.flip reported
      obtain ⟨parent, -, behind⟩ :=
        CodeFollowingJump.standsBehind_of_reports arranged member reports
      exact ⟨parent, behind⟩
    · rw [condition]
      constructor
      · exact Or.inr
      · rintro (rfl | wrapped)
        · exact condition.mp (by simp)
        · exact wrapped

/-- The code `if ($c) return; echo $x;` as a block in which the `if` has no wrapper. -/
def guardedReturn : List BuildCall :=
  [.start .block,
    .start .ifStatement, .token .ifKw "if" 1 0,
      .start .parenthesizedExpression, .token .variable "$c" 1 4, .finish,
      .start .returnStatement, .token .returnKw "return" 1 8, .missing,
        .token .semicolon ";" 1 14, .finish,
      .finish,
    .start .statement, .start .echoStatement, .token .echoKw "echo" 2 0,
      .token .variable "$x" 2 5, .token .semicolon ";" 2 7, .finish, .finish,
    .finish]

theorem analyze_guardedReturn :
    ∃ tree registry violation, (Builder.after guardedReturn).finish = .ok tree ∧
      Config.registry {} Unit = .ok registry ∧
      registry.analyze () tree = .ok [violation] ∧
      tree.prevSibling? violation.anchor = some 6 ∧ tree.kind 6 = .ifStatement := by
  obtain ⟨tree, frozen, followed, keyword, previous, isIf⟩ : ∃ tree,
      (Builder.after guardedReturn).finish = .ok tree ∧ tree.followedJumps = [(5, 11)] ∧
        tree.firstToken? 5 = some ⟨3, .returnKw, "return", ⟨1, 8⟩⟩ ∧
        tree.prevSibling? 11 = some 6 ∧ tree.kind 6 = .ifStatement :=
    ⟨_, rfl, by decide +kernel⟩
  have built := (Config.registry_eq_after {} Unit).1
  rw [CodeFollowingJump.enabledChecks_eq, if_neg (by decide)] at built
  have analyzed := CodeFollowingJump.analyze_only () tree
  rw [followed, gather_singleton, CodeFollowingJump.report, keyword] at analyzed
  exact ⟨tree, _, _, frozen, built, analyzed, previous, isIf⟩

theorem guardedReturn_reported_behind_if :
    ∃ tree registry violation, (Builder.after guardedReturn).finish = .ok tree ∧
      Config.registry {} Unit = .ok registry ∧
      registry.analyze () tree = .ok [violation] ∧
      CodeFollowingJump.StandsBehind tree 6 violation ∧ tree.kind 6 = .ifStatement ∧
      ∃ followed ∈ tree.followedJumps, ∃ parent,
        tree.parent? followed.1 = some parent ∧ tree.kind parent ≠ .statement := by
  obtain ⟨tree, registry, violation, frozen, built, analyzed, previous, isIf⟩ :=
    analyze_guardedReturn
  obtain ⟨stands, condition⟩ := reports_stand_behind_parents_of_jumps frozen built analyzed
  obtain ⟨holder, behind⟩ := stands violation (List.mem_singleton_self violation)
  obtain rfl : holder = 6 := Option.some.inj (behind.previous.symm.trans previous)
  refine ⟨tree, registry, violation, frozen, built, analyzed, behind, isIf, ?_⟩
  by_contra wrapped
  push Not at wrapped
  have stays := condition.mpr (.inr wrapped) violation (List.mem_singleton_self violation)
  have isStatement := stays.kind_previous previous
  rw [isIf] at isStatement
  cases isStatement

/-- A report need not stay in the statement list of its jump. -/
theorem reports_may_leave_statement_list :
    ¬ ∀ (calls : List BuildCall) (tree : Tree) (registry : Registry Unit)
      (violations : List Violation), (Builder.after calls).finish = .ok tree →
        Config.registry {} Unit = .ok registry → registry.analyze () tree = .ok violations →
          ∀ violation ∈ violations, CodeFollowingJump.StaysInList tree violation := by
  intro allStay
  obtain ⟨tree, registry, violation, frozen, built, analyzed, previous, isIf⟩ :=
    analyze_guardedReturn
  have stays := allStay guardedReturn tree registry [violation] frozen built analyzed violation
    (List.mem_singleton_self violation)
  have isStatement := stays.kind_previous previous
  rw [isIf] at isStatement
  cases isStatement

end TreeLint
