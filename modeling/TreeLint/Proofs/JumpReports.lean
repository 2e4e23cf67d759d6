import TreeLint.Proofs.BuilderRuns
import TreeLint.Proofs.BuiltinRules
import TreeLint.Proofs.Schedule
import TreeLint.Proofs.Templates
import TreeLint.Proofs.Traversals

/-!
# What the built-in rule reports

A jump is followed if the node that wraps it has a statement as its next
sibling.  With the rule enabled, an analysis reports the followed jumps one by
one in pre-order, and it fails at the first of them that has no token to quote.

The check keeps no state.  What a walk with such checks comes to is gathered call
by call: each call adds violations of its own or ends the walk.  The calls that
say nothing are then left out, until only the followed jumps remain.
-/

namespace TreeLint

/-! ## Gathering -/

/-- Puts together what is told about each item, up to the first error. -/
def gather {α β : Type} (tell : α → Except Error (List β)) :
    List α → Except Error (List β)
  | [] => .ok []
  | item :: rest =>
      match tell item with
      | .ok told => (gather tell rest).map (told ++ ·)
      | .error error => .error error

section Gather

variable {α β γ : Type} {tell : α → Except Error (List β)}

theorem gather_cons_silent {item : α} (silent : tell item = .ok []) (rest : List α) :
    gather tell (item :: rest) = gather tell rest := by
  rw [gather, silent]
  cases gather tell rest <;> rfl

theorem gather_append (first second : List α) :
    gather tell (first ++ second) =
      match gather tell first with
      | .ok told => (gather tell second).map (told ++ ·)
      | .error error => .error error := by
  induction first with
  | nil =>
      rw [List.nil_append, gather]
      cases gather tell second <;> rfl
  | cons item rest ih =>
      rw [List.cons_append, gather, gather, ih]
      cases tell item with
      | error error => rfl
      | ok told =>
          cases gather tell rest with
          | error error => rfl
          | ok later => cases gather tell second <;> simp [Except.map]

theorem gather_singleton (item : α) : gather tell [item] = tell item := by
  rw [gather, gather]
  cases tell item <;> simp [Except.map]

theorem gather_flatMap (parts : γ → List α) (items : List γ) :
    gather tell (items.flatMap parts) = gather (fun item => gather tell (parts item)) items := by
  induction items with
  | nil => rfl
  | cons item rest ih => rw [List.flatMap_cons, gather_append, gather, ih]

theorem gather_congr {other : α → Except Error (List β)} {items : List α}
    (same : ∀ item ∈ items, tell item = other item) : gather tell items = gather other items := by
  induction items with
  | nil => rfl
  | cons item rest ih =>
      rw [gather, gather, same item List.mem_cons_self,
        ih fun item member => same item (List.mem_cons_of_mem _ member)]

/-- Items that are passed over tell nothing. -/
theorem gather_filterMap (choose : γ → Option α) (items : List γ) :
    gather tell (items.filterMap choose) =
      gather (fun item => (choose item).elim (.ok []) tell) items := by
  induction items with
  | nil => rfl
  | cons item rest ih =>
      cases chosen : choose item with
      | none =>
          rw [List.filterMap_cons_none chosen, ih, gather_cons_silent]
          rw [chosen]
          rfl
      | some wanted =>
          rw [List.filterMap_cons_some chosen, gather, gather, chosen, ih]
          rfl

end Gather

/-! ## Checks without state -/

/-- What a call contributes whatever the state of its check. -/
def HookCall.Tells {σ : Type} (tree : Tree) (call : HookCall σ) :
    Except Error (List Violation) → Prop
  | .ok told => ∀ state, (call.moment.hook tree call.check state).failure = none ∧
      (call.moment.hook tree call.check state).findings.map
        (Violation.ofFinding tree call.check.rule) = told
  | .error error => ∀ state, (call.moment.hook tree call.check state).failure = some error

theorem Session.play_gather {σ : Type} {tree : Tree} {calls : List (HookCall σ)}
    {tell : HookCall σ → Except Error (List Violation)}
    (tells : ∀ call ∈ calls, call.Tells tree (tell call)) (session : Session σ) :
    (session.after (play tree calls)).1.map
        (fun _ => (session.after (play tree calls)).2.sink) =
      (gather tell calls).map (session.sink ++ ·) := by
  induction calls generalizing session with
  | nil => exact congrArg Except.ok (List.append_nil session.sink).symm
  | cons call rest ih =>
      obtain ⟨here, later⟩ := List.forall_mem_cons.mp tells
      rw [after_play_cons, gather]
      cases told : tell call with
      | error error =>
          rw [told] at here
          rw [show (session.answer tree call).failure = some error from here _]
          rfl
      | ok violations =>
          rw [told] at here
          obtain ⟨succeeds, said⟩ := here (session.slot call.number)
          have sink : (session.next tree call).sink = session.sink ++ violations :=
            congrArg (session.sink ++ ·) said
          rw [show (session.answer tree call).failure = none from succeeds]
          refine (ih later (session.next tree call)).trans ?_
          rw [sink]
          cases gather tell rest <;> simp [Except.map]

theorem Registry.analyze_gather {σ : Type} {registry : Registry σ} {tree : Tree}
    {tell : HookCall σ → Except Error (List Violation)}
    (tells : ∀ call ∈ registry.schedule tree, call.Tells tree (tell call)) (fresh : σ) :
    registry.analyze fresh tree =
      gather (fun moment => gather tell (registry.hookCalls tree moment)) tree.moments := by
  rw [analyze_eq, performance, Session.play_gather tells, schedule, gather_flatMap]
  generalize gather _ tree.moments = gathered
  cases gathered <;> rfl

/-- Where nothing is told when nodes are left, a walk tells what is told about each
node in pre-order. -/
theorem Tree.gather_nodeMoments {β : Type} {tree : Tree} {tell : Moment → Except Error (List β)}
    (leaving : ∀ id, tell (.leave id) = .ok []) (id : Nat) :
    gather tell (tree.nodeMoments id) =
      gather (fun node => tell (.enter node)) (tree.descendants id) := by
  induction id using Nat.strongRecOn with
  | ind id ih =>
      have below : gather tell ((tree.children id).flatMap tree.nodeMoments) =
          gather (fun node => tell (.enter node))
            ((tree.children id).flatMap tree.descendants) := by
        rw [gather_flatMap, gather_flatMap]
        apply gather_congr
        intro child isChild
        exact ih child (lt_of_mem_children isChild)
      rw [nodeMoments_eq, descendants_eq, List.cons_append, gather, gather, gather_append, below,
        gather_singleton, leaving]
      cases tell (.enter id) with
      | error error => rfl
      | ok told =>
          cases gather (fun node => tell (.enter node))
            ((tree.children id).flatMap tree.descendants) <;> simp [Except.map]

theorem Tree.gather_moments {β : Type} {tree : Tree} {tell : Moment → Except Error (List β)}
    (opening : tell .opening = .ok []) (leaving : ∀ id, tell (.leave id) = .ok [])
    (closing : tell .closing = .ok []) :
    gather tell tree.moments =
      gather (fun node => tell (.enter node)) (tree.descendants tree.root) := by
  rw [moments, List.cons_append, gather_cons_silent opening, gather_append,
    gather_nodeMoments leaving, gather_singleton, closing]
  cases gather (fun node => tell (.enter node)) (tree.descendants tree.root) <;>
    simp [Except.map]

/-! ## The message -/

namespace CodeFollowingJump

/-- The keyword is quoted as it is, also where it looks like a placeholder. -/
theorem format_template (keyword : String) :
    Message.format template [keyword] = "Remove the code after this \"" ++ keyword ++ "\"." := by
  have cut : template.toList = "Remove the code after this \"".toList ++
      '\x7b' :: '0' :: '\x7d' :: "\".".toList := rfl
  have placeholder : Message.placeholder? [keyword] ('0' :: '\x7d' :: "\".".toList) =
      some (keyword, "\".".toList) := rfl
  have replaced : Message.substitute [keyword] ('\x7b' :: '0' :: '\x7d' :: "\".".toList) =
      keyword.toList ++ "\".".toList := by
    rw [Message.substitute_placeholder placeholder, Message.substitute_plain (by decide)]
  rw [Message.format, cut, Message.substitute_append (by decide), replaced, ← List.append_assoc,
    String.ofList_append, String.ofList_append]
  simp only [String.ofList_toList]

end CodeFollowingJump

/-! ## Followed jumps -/

/-- The jumps of a tree whose wrapper is followed by a statement, in pre-order, each
with that statement. -/
def Tree.followedJumps (tree : Tree) : List (Nat × Nat) :=
  (tree.descendants tree.root).filterMap fun jump =>
    if tree.kind jump ∈ [Kind.breakStatement, .returnStatement, .continueStatement,
        .throwStatement] then do
      let wrapper ← tree.parent? jump
      let next ← tree.nextSibling? wrapper
      if tree.kind next = .statement then some (jump, next) else none
    else none

namespace CodeFollowingJump

/-- The violation that a followed jump gives rise to. -/
def Reports (tree : Tree) (followed : Nat × Nat) (violation : Violation) : Prop :=
  ∃ keyword, tree.firstToken? followed.1 = some keyword ∧
    violation =
      { rule := "correctness/code-following-jump"
        message := "Remove the code after this \"" ++ keyword.text ++ "\"."
        parameters := [keyword.text]
        anchor := followed.2
        position := (tree.firstToken? followed.2).map Token.position }

/-- What the rule says about a followed jump. -/
def report (tree : Tree) (followed : Nat × Nat) : Except Error (List Violation) :=
  match tree.firstToken? followed.1 with
  | none => .error (.malformedTree (.noKeyword (tree.kind followed.1)))
  | some keyword =>
      .ok [.ofFinding tree ruleKey ⟨followed.2, template, [keyword.text]⟩]

theorem reports_ofFinding {tree : Tree} {followed : Nat × Nat} {keyword : Token}
    (first : tree.firstToken? followed.1 = some keyword) :
    Reports tree followed
      (.ofFinding tree ruleKey ⟨followed.2, template, [keyword.text]⟩) := by
  refine ⟨keyword, first, ?_⟩
  rw [Violation.ofFinding, format_template]
  rfl

/-- The followed jumps are reported one by one, or the first one without a token ends
the report. -/
theorem gather_report (tree : Tree) (jumps : List (Nat × Nat)) :
    match jumps.find? fun followed => (tree.tokens followed.1).isEmpty with
    | some followed =>
        gather (report tree) jumps = .error (.malformedTree (.noKeyword (tree.kind followed.1)))
    | none =>
        ∃ violations, gather (report tree) jumps = .ok violations ∧
          List.Forall₂ (Reports tree) jumps violations := by
  induction jumps with
  | nil => exact ⟨[], rfl, .nil⟩
  | cons followed rest ih =>
      have first := tree.firstToken?_eq followed.1
      cases tokens : tree.tokens followed.1 with
      | nil =>
          rw [tokens, List.head?_nil] at first
          rw [List.find?_cons_of_pos (by simp [tokens])]
          simp only [gather, report, first]
      | cons keyword others =>
          rw [tokens, List.head?_cons] at first
          rw [List.find?_cons_of_neg (by simp [tokens])]
          split at ih
          · simp only [gather, report, first, ih]
            rfl
          · obtain ⟨violations, gathered, reported⟩ := ih
            refine ⟨_ :: violations, ?_, .cons (reports_ofFinding first) reported⟩
            simp only [gather, report, first, gathered]
            rfl

/-- What the rule says when a node is visited. -/
def visitReport (tree : Tree) (jump : Nat) : Except Error (List Violation) :=
  (following? tree jump).elim (.ok []) fun next => report tree (jump, next)

def callReport {σ : Type} (tree : Tree) (call : HookCall σ) : Except Error (List Violation) :=
  match call.moment with
  | .enter jump => visitReport tree jump
  | _ => .ok []

theorem tells_callReport {σ : Type} (tree : Tree) (number : Nat) (moment : Moment) :
    HookCall.Tells tree ⟨number, codeFollowingJump σ, moment⟩
      (callReport tree ⟨number, codeFollowingJump σ, moment⟩) := by
  cases moment with
  | opening | leave id | closing => exact fun state => ⟨rfl, rfl⟩
  | enter jump =>
      change HookCall.Tells tree ⟨number, codeFollowingJump σ, .enter jump⟩ (visitReport tree jump)
      rw [visitReport]
      cases behind : following? tree jump with
      | none =>
          intro state
          simp [Moment.hook, codeFollowingJump, visit, behind]
      | some next =>
          rw [Option.elim_some, report]
          cases keyword : tree.firstToken? jump <;>
          · intro state
            simp [Moment.hook, codeFollowingJump, visit, behind, keyword]

theorem map_following? (tree : Tree) (jump : Nat) :
    (following? tree jump).map (jump, ·) = (do
      let wrapper ← tree.parent? jump
      let next ← tree.nextSibling? wrapper
      if tree.kind next = .statement then some (jump, next) else none) := by
  rw [following?]
  cases tree.parent? jump with
  | none => rfl
  | some wrapper =>
      cases found : tree.nextSibling? wrapper with
      | none => simp [found]
      | some next =>
          by_cases isStatement : tree.kind next = .statement <;>
            simp [found, isStatement, Kind.isStatement]

theorem followedJumps_eq (tree : Tree) :
    tree.followedJumps = (tree.descendants tree.root).filterMap fun jump =>
      if tree.kind jump ∈ jumpKinds then (following? tree jump).map (jump, ·) else none := by
  simp only [map_following?]
  rfl

/-! ## The analysis -/

section Analysis

variable {σ : Type}

/-- The registry in which the rule is the only one. -/
def only (σ : Type) : Registry σ :=
  Registry.after [.register (codeFollowingJump σ)]

theorem checksFor_only (kind : Kind) :
    (only σ).checksFor kind = if kind ∈ jumpKinds then [(0, codeFollowingJump σ)] else [] := by
  cases kind <;> rfl

theorem check_of_mem_schedule {tree : Tree} {call : HookCall σ}
    (member : call ∈ (only σ).schedule tree) : call.check = codeFollowingJump σ := by
  obtain ⟨moment, -, called⟩ := List.mem_flatMap.mp member
  obtain ⟨entry, listens, rfl⟩ := List.mem_map.mp called
  have isOnly : entry ∈ [(0, codeFollowingJump σ)] := by
    cases moment with
    | opening | closing => exact listens
    | enter id | leave id =>
        rw [Registry.listeners, checksFor_only] at listens
        split at listens
        · exact listens
        · cases listens
  rw [List.mem_singleton.mp isOnly]

theorem gather_hookCalls (tree : Tree) (jump : Nat) :
    gather (callReport tree) ((only σ).hookCalls tree (.enter jump)) =
      if tree.kind jump ∈ jumpKinds then visitReport tree jump else .ok [] := by
  rw [Registry.hookCalls, Registry.listeners, checksFor_only]
  split
  · rw [List.map_singleton, gather_singleton]
    rfl
  · rfl

theorem analyze_only (fresh : σ) (tree : Tree) :
    (only σ).analyze fresh tree = gather (report tree) tree.followedJumps := by
  have tells : ∀ call ∈ (only σ).schedule tree, call.Tells tree (callReport tree call) := by
    intro call member
    obtain ⟨number, check, moment⟩ := call
    obtain rfl : check = codeFollowingJump σ := check_of_mem_schedule member
    exact tells_callReport tree number moment
  have silent : ∀ id, gather (callReport tree) ((only σ).hookCalls tree (.leave id)) = .ok [] := by
    intro id
    rw [Registry.hookCalls, Registry.listeners, checksFor_only]
    split <;> rfl
  rw [Registry.analyze_gather tells, Tree.gather_moments rfl silent rfl, followedJumps_eq,
    gather_filterMap]
  apply gather_congr
  intro jump _
  rw [gather_hookCalls, visitReport]
  split
  · cases following? tree jump <;> rfl
  · rfl

theorem analyze_empty (fresh : σ) (tree : Tree) :
    Registry.empty.analyze fresh tree = .ok [] := by
  have silent : ∀ moment, (Registry.empty : Registry σ).hookCalls tree moment = [] := by
    intro moment
    cases moment <;> rfl
  have nothing : (Registry.empty : Registry σ).schedule tree = [] := by
    simp [Registry.schedule, silent]
  rw [Registry.analyze_eq, Registry.performance, nothing]
  rfl

theorem enabledChecks_eq (config : Config) :
    config.enabledChecks σ =
      if config.linterEnabled = false ∨ config.severityOf ruleKey = .off then []
      else [codeFollowingJump σ] := by
  have rule : (codeFollowingJump σ).rule = ruleKey := rfl
  cases enabled : config.linterEnabled with
  | false => simp [Config.enabledChecks, enabled]
  | true =>
      by_cases off : config.severityOf ruleKey = .off <;>
        simp [Config.enabledChecks, enabled, builtinChecks, rule, Severity.enabled, off]

end Analysis

end CodeFollowingJump

/-- The exact outcome of an analysis with the built-in rule under any configuration.
Nothing is reported if the linter is disabled or the rule is off.  Otherwise the
first followed jump without a token is an error that names its kind, and where each
has one, the violations correspond to the followed jumps one by one. -/
theorem analysis_reports_followed_jumps (tree : Tree) (config : Config) (σ : Type) (fresh : σ) :
    ∃ registry, config.registry σ = .ok registry ∧
      if config.linterEnabled = false ∨
          config.severityOf "correctness/code-following-jump" = .off then
        registry.analyze fresh tree = .ok []
      else
        match tree.followedJumps.find? fun followed => (tree.tokens followed.1).isEmpty with
        | some followed =>
            registry.analyze fresh tree =
              .error (.malformedTree (.noKeyword (tree.kind followed.1)))
        | none =>
            ∃ violations, registry.analyze fresh tree = .ok violations ∧
              List.Forall₂ (CodeFollowingJump.Reports tree) tree.followedJumps violations := by
  refine ⟨_, (config.registry_eq_after σ).1, ?_⟩
  rw [CodeFollowingJump.enabledChecks_eq, CodeFollowingJump.ruleKey]
  split
  · exact CodeFollowingJump.analyze_empty fresh tree
  · have analyzed := CodeFollowingJump.analyze_only fresh tree
    rw [CodeFollowingJump.only] at analyzed
    rw [List.map_singleton, analyzed]
    exact CodeFollowingJump.gather_report tree tree.followedJumps

/-- A block with a followed jump whose keyword looks like a placeholder, and with a
jump that has no token and is not followed. -/
def bracedJump : List BuildCall :=
  [.start .block, .start .statement, .start .returnStatement,
    .token .returnKw "\x7b0\x7d" 1 0, .finish, .finish, .missing, .start .statement,
    .token .echoKw "echo" 2 0, .finish, .start .throwStatement, .finish, .finish]

theorem bracedJump_reported :
    ∃ tree registry, (Builder.after bracedJump).finish = .ok tree ∧
      Config.registry {} Unit = .ok registry ∧
      registry.analyze () tree = .ok [⟨"correctness/code-following-jump",
        "Remove the code after this \"\x7b0\x7d\".", ["\x7b0\x7d"], 4, some ⟨2, 0⟩⟩] := by
  obtain ⟨tree, frozen, followed, quotable, keyword, anchor⟩ : ∃ tree,
      (Builder.after bracedJump).finish = .ok tree ∧ tree.followedJumps = [(1, 4)] ∧
        (tree.tokens 1).isEmpty = false ∧
        tree.firstToken? 1 = some ⟨0, .returnKw, "\x7b0\x7d", ⟨1, 0⟩⟩ ∧
        tree.firstToken? 4 = some ⟨3, .echoKw, "echo", ⟨2, 0⟩⟩ := ⟨_, rfl, by decide +kernel⟩
  obtain ⟨registry, built, analyzed⟩ := analysis_reports_followed_jumps tree {} Unit ()
  rw [if_neg (by decide), followed, List.find?_cons_of_neg (by simp [quotable]),
    List.find?_nil] at analyzed
  obtain ⟨violations, reported, one⟩ := analyzed
  obtain ⟨violation, rest, ⟨quoted, isFirst, rfl⟩, noMore, rfl⟩ :=
    List.forall₂_cons_left_iff.mp one
  obtain rfl := List.forall₂_nil_left_iff.mp noMore
  rw [keyword] at isFirst
  cases isFirst
  rw [anchor] at reported
  exact ⟨tree, registry, frozen, built, reported⟩

end TreeLint
