import TreeLint.Proofs.BuilderRuns
import TreeLint.Proofs.RegistryRuns
import TreeLint.Proofs.Schedule

/-!
# Checks do not interfere with one another

A check sees the tree and a state of its own, and what it finds is filed under
its own rule.  So a walk with many checks does for each of them what a walk
with this check alone would do, up to the point where some check fails.

A session with many checks is compared with the session of one check: the
second has the state of the check in its only slot and the violations of its
rule in its sink.  A call of this check keeps both in step, and a call of any
other check leaves the comparison as it is.
-/

namespace TreeLint

def ofRule (rule : String) (violations : List Violation) : List Violation :=
  violations.filter fun violation => violation.rule = rule

theorem ofRule_append (rule : String) (first second : List Violation) :
    ofRule rule (first ++ second) = ofRule rule first ++ ofRule rule second :=
  List.filter_append ..

theorem ofRule_findings (tree : Tree) (rule : String) (findings : List Finding) :
    ofRule rule (findings.map (Violation.ofFinding tree rule)) =
      findings.map (Violation.ofFinding tree rule) := by
  rw [ofRule, List.filter_eq_self]
  intro violation member
  obtain ⟨finding, -, rfl⟩ := List.mem_map.mp member
  simp [Violation.ofFinding]

theorem ofRule_findings_of_ne {rule other : String} (different : other ≠ rule) (tree : Tree)
    (findings : List Finding) :
    ofRule rule (findings.map (Violation.ofFinding tree other)) = [] := by
  rw [ofRule, List.filter_eq_nil_iff]
  intro violation member
  obtain ⟨finding, -, rfl⟩ := List.mem_map.mp member
  simp [Violation.ofFinding, different]

/-! ## The calls of one check -/

/-- The call in a registry where the check is the only one. -/
def HookCall.alone {σ : Type} (call : HookCall σ) : HookCall σ :=
  { call with number := 0 }

/-- The calls of the check with a number, as they are made for it alone. -/
def soloPart {σ : Type} (id : Nat) (calls : List (HookCall σ)) : List (HookCall σ) :=
  (calls.filter fun call => call.number = id).map HookCall.alone

section SoloPart

variable {σ : Type}

theorem soloPart_cons_own {id : Nat} {call : HookCall σ} (own : call.number = id)
    (rest : List (HookCall σ)) :
    soloPart id (call :: rest) = call.alone :: soloPart id rest := by
  simp [soloPart, own]

theorem soloPart_cons_other {id : Nat} {call : HookCall σ}
    (other : call.number ≠ id) (rest : List (HookCall σ)) :
    soloPart id (call :: rest) = soloPart id rest := by
  simp [soloPart, other]

theorem soloPart_flatMap {α : Type} (id : Nat) (items : List α)
    (calls : α → List (HookCall σ)) :
    soloPart id (items.flatMap calls) = items.flatMap fun item => soloPart id (calls item) := by
  rw [soloPart, List.filter_flatMap, List.map_flatMap]
  rfl

theorem soloPart_eq_self {calls : List (HookCall σ)}
    (only : ∀ call ∈ calls, call.number = 0) :
    soloPart 0 calls = calls := by
  have kept : (calls.filter fun call => call.number = 0) = calls := by
    rw [List.filter_eq_self]
    intro call member
    simpa using only call member
  have unchanged : ∀ call ∈ calls, call.alone = id call := by
    rintro ⟨number, check, moment⟩ member
    obtain rfl : number = 0 := only _ member
    rfl
  rw [soloPart, kept, List.map_congr_left unchanged, List.map_id]

end SoloPart

namespace Session

variable {σ : Type}

/-- The session of one check alone has its state and the violations of its rule. -/
structure Shadows (id : Nat) (rule : String) (session solo : Session σ) : Prop where
  slot : solo.slot 0 = session.slot id
  sink : solo.sink = ofRule rule session.sink

theorem answer_alone {session solo : Session σ} {call : HookCall σ} (tree : Tree)
    (sameSlot : solo.slot 0 = session.slot call.number) :
    solo.answer tree call.alone = session.answer tree call := by
  rw [answer, answer, ← sameSlot]
  rfl

theorem slot_next_own {session solo : Session σ} {call : HookCall σ} (tree : Tree)
    (sameSlot : solo.slot 0 = session.slot call.number) :
    (solo.next tree call.alone).slot 0 =
      (session.next tree call).slot call.number := by
  rw [next, answer_alone tree sameSlot]
  simp [next, record, HookCall.alone]

theorem slot_next_other {session : Session σ} {call : HookCall σ} {id : Nat}
    (tree : Tree) (other : call.number ≠ id) :
    (session.next tree call).slot id = session.slot id := by
  simp [next, record, Function.update_of_ne (Ne.symm other)]

theorem shadows_start (id : Nat) (rule : String) (fresh : σ) :
    Shadows id rule (start fresh []) (start fresh []) :=
  ⟨rfl, rfl⟩

/-- A call of the check itself keeps its own session in step. -/
theorem Shadows.own {session solo : Session σ} {call : HookCall σ} (tree : Tree)
    (shadows : Shadows call.number call.check.rule session solo) :
    Shadows call.number call.check.rule (session.next tree call)
      (solo.next tree call.alone) where
  slot := slot_next_own tree shadows.slot
  sink := by
    rw [next, answer_alone tree shadows.slot]
    simp only [next, record, ofRule_append, ofRule_findings, shadows.sink]
    rfl

/-- A call of another check is not noticed. -/
theorem Shadows.other {session solo : Session σ} {call : HookCall σ} {id : Nat}
    {rule : String} (tree : Tree) (shadows : Shadows id rule session solo)
    (otherNumber : call.number ≠ id) (otherRule : call.check.rule ≠ rule) :
    Shadows id rule (session.next tree call) solo where
  slot := by rw [slot_next_other tree otherNumber, shadows.slot]
  sink := by
    simp only [next, record, ofRule_append, ofRule_findings_of_ne otherRule, List.append_nil,
      shadows.sink]

theorem sink_prefix_next (session : Session σ) (tree : Tree) (call : HookCall σ) :
    session.sink <+: (session.next tree call).sink :=
  List.prefix_append ..

theorem sink_prefix_play (session : Session σ) (tree : Tree)
    (calls : List (HookCall σ)) :
    session.sink <+: (session.after (play tree calls)).2.sink := by
  induction calls generalizing session with
  | nil => exact List.prefix_rfl
  | cons call rest ih =>
      rw [after_play_cons]
      have first := session.sink_prefix_next tree call
      cases (session.answer tree call).failure with
      | some error => exact first
      | none => exact first.trans (ih _)

/-! ## Runs of calls -/

def Tells (id : Nat) (rule : String) (calls : List (HookCall σ)) : Prop :=
  ∀ call ∈ calls, call.check.rule = rule ↔ call.number = id

theorem play_ok {id : Nat} {rule : String} {tree : Tree} {calls : List (HookCall σ)}
    (tells : Tells id rule calls) {session solo : Session σ}
    (shadows : Shadows id rule session solo)
    (succeeds : (session.after (play tree calls)).1 = .ok ()) :
    (solo.after (play tree (soloPart id calls))).1 = .ok () ∧
      Shadows id rule (session.after (play tree calls)).2
        (solo.after (play tree (soloPart id calls))).2 := by
  induction calls generalizing session solo with
  | nil => exact ⟨rfl, shadows⟩
  | cons call rest ih =>
      obtain ⟨telling, tellsRest⟩ := List.forall_mem_cons.mp tells
      rw [after_play_cons] at succeeds ⊢
      cases failure : (session.answer tree call).failure with
      | some error =>
          rw [failure] at succeeds
          cases succeeds
      | none =>
          rw [failure] at succeeds
          dsimp only at succeeds ⊢
          by_cases own : call.number = id
          · obtain rfl := own
            obtain rfl := telling.mpr rfl
            rw [soloPart_cons_own rfl, after_play_cons, answer_alone tree shadows.slot, failure]
            exact ih tellsRest (shadows.own tree) succeeds
          · rw [soloPart_cons_other own]
            exact ih tellsRest (shadows.other tree own (mt telling.mp own)) succeeds

/-- Whether or not a call fails, what is filed under the rule of a check begins
what the check files alone. -/
theorem play_prefix {id : Nat} {rule : String} (tree : Tree) {calls : List (HookCall σ)}
    (tells : Tells id rule calls) {session solo : Session σ}
    (shadows : Shadows id rule session solo) :
    ofRule rule (session.after (play tree calls)).2.sink <+:
      (solo.after (play tree (soloPart id calls))).2.sink := by
  induction calls generalizing session solo with
  | nil => exact shadows.sink ▸ List.prefix_rfl
  | cons call rest ih =>
      obtain ⟨telling, tellsRest⟩ := List.forall_mem_cons.mp tells
      rw [after_play_cons]
      by_cases own : call.number = id
      · obtain rfl := own
        obtain rfl := telling.mpr rfl
        have kept := shadows.own tree
        rw [soloPart_cons_own rfl, after_play_cons, answer_alone tree shadows.slot]
        cases (session.answer tree call).failure with
        | some error => exact kept.sink ▸ List.prefix_rfl
        | none => exact ih tellsRest kept
      · have kept := shadows.other tree own (mt telling.mp own)
        rw [soloPart_cons_other own]
        -- A failure here ends the walk of all checks, while this one goes on alone.
        cases (session.answer tree call).failure with
        | some error => exact kept.sink ▸ solo.sink_prefix_play tree _
        | none => exact ih tellsRest kept

/-- A call that fails also fails where its check is alone. -/
theorem play_error {tree : Tree} {calls : List (HookCall σ)} {session : Session σ}
    {error : Error} (fails : (session.after (play tree calls)).1 = .error error) :
    ∃ call ∈ calls, ∀ solo : Session σ,
      solo.slot 0 = session.slot call.number →
        (solo.after (play tree (soloPart call.number calls))).1 = .error error := by
  -- Which check fails is only known at the end, so the session of one check is
  -- bound inside and follows the calls of the check that the induction names.
  induction calls generalizing session with
  | nil => cases fails
  | cons call rest ih =>
      rw [after_play_cons] at fails
      cases failure : (session.answer tree call).failure with
      | some cause =>
          rw [failure] at fails
          cases fails
          refine ⟨call, List.mem_cons_self, ?_⟩
          intro solo sameSlot
          rw [soloPart_cons_own rfl, after_play_cons, answer_alone tree sameSlot, failure]
      | none =>
          rw [failure] at fails
          obtain ⟨failing, member, failsAlone⟩ := ih fails
          refine ⟨failing, List.mem_cons_of_mem _ member, ?_⟩
          intro solo sameSlot
          by_cases own : call.number = failing.number
          · rw [← own] at sameSlot failsAlone ⊢
            rw [soloPart_cons_own rfl, after_play_cons, answer_alone tree sameSlot, failure]
            exact failsAlone _ (slot_next_own tree sameSlot)
          · rw [soloPart_cons_other own]
            exact failsAlone solo (by rw [slot_next_other tree own, sameSlot])

end Session

/-! ## The registry of one check -/

theorem filter_fst_of_mem {α : Type} {entries : List (Nat × α)}
    (nodup : (entries.map Prod.fst).Nodup) {id : Nat} {item : α} (member : (id, item) ∈ entries) :
    (entries.filter fun entry => entry.1 = id) = [(id, item)] := by
  induction entries with
  | nil => cases member
  | cons entry rest ih =>
      obtain ⟨fresh, nodupRest⟩ := List.nodup_cons.mp nodup
      rcases List.mem_cons.mp member with rfl | later
      · have others : (rest.filter fun entry => entry.1 = id) = [] := by
          rw [List.filter_eq_nil_iff]
          intro other isOther
          have different : other.1 ≠ id := fun same =>
            fresh (List.mem_map.mpr ⟨other, isOther, same⟩)
          simp [different]
        simp [others]
      · have different : entry.1 ≠ id := fun same =>
          fresh (List.mem_map.mpr ⟨(id, item), later, same.symm⟩)
        rw [List.filter_cons_of_neg (by simp [different]), ih nodupRest later]

namespace Registry

variable {σ : Type}

/-- Whether the check with a number is called at a moment. -/
def hears (registry : Registry σ) (tree : Tree) (id : Nat) : Moment → Bool
  | .opening => true
  | .enter node => decide (⟨tree.kind node, id⟩ ∈ registry.subscriptions)
  | .leave node => decide (⟨tree.kind node, id⟩ ∈ registry.subscriptions)
  | .closing => true

theorem mem_listeners {registry : Registry σ} {tree : Tree} {moment : Moment} {id : Nat}
    {check : Check σ} :
    (id, check) ∈ registry.listeners tree moment ↔
      registry.hears tree id moment = true ∧ registry.checks[id]? = some check := by
  cases moment <;> simp [listeners, hears, mem_entries, mem_checksFor]

theorem Orderly.listeners_nodup {registry : Registry σ} (orderly : Orderly registry)
    (tree : Tree) (moment : Moment) :
    ((registry.listeners tree moment).map Prod.fst).Nodup := by
  cases moment with
  | opening => exact registry.entries_nodup
  | enter node => exact orderly.checksFor_nodup (tree.kind node)
  | leave node => exact orderly.checksFor_nodup (tree.kind node)
  | closing => exact registry.entries_nodup

/-- A check is called at most once at each moment. -/
theorem soloPart_hookCalls {registry : Registry σ} (orderly : Orderly registry) (tree : Tree)
    {id : Nat} {check : Check σ} (found : registry.checks[id]? = some check)
    (moment : Moment) :
    soloPart id (registry.hookCalls tree moment) =
      if registry.hears tree id moment then [⟨0, check, moment⟩] else [] := by
  have own : soloPart id (registry.hookCalls tree moment) =
      ((registry.listeners tree moment).filter fun entry => entry.1 = id).map
        fun entry => ⟨0, entry.2, moment⟩ := by
    rw [soloPart, hookCalls, List.filter_map, List.map_map]
    rfl
  rw [own]
  split
  · rename_i heard
    rw [filter_fst_of_mem (orderly.listeners_nodup tree moment)
      (mem_listeners.mpr ⟨heard, found⟩)]
    rfl
  · rename_i unheard
    have others : ((registry.listeners tree moment).filter fun entry => entry.1 = id) = [] := by
      rw [List.filter_eq_nil_iff]
      rintro ⟨other, otherCheck⟩ isListener same
      rw [decide_eq_true_eq] at same
      exact unheard (same ▸ (mem_listeners.mp isListener).1)
    rw [others]
    rfl

def Reachable (registry : Registry σ) : Prop :=
  ∃ calls, registry = after calls

theorem Reachable.orderly {registry : Registry σ} (reachable : Reachable registry) :
    Orderly registry := by
  obtain ⟨calls, rfl⟩ := reachable
  exact orderly_after calls

/-- The registry `alone` holds one check, which listens to the same kinds as the
check with a number does in the other registry. -/
structure SoloOf (registry : Registry σ) (id : Nat) (check : Check σ)
    (alone : Registry σ) : Prop where
  reachable : Reachable alone
  checks : alone.checks = #[check]
  hears : ∀ kind, ⟨kind, 0⟩ ∈ alone.subscriptions ↔ ⟨kind, id⟩ ∈ registry.subscriptions

theorem number_of_mem_schedule {registry : Registry σ} {tree : Tree}
    {call : HookCall σ} (member : call ∈ registry.schedule tree) :
    registry.checks[call.number]? = some call.check := by
  obtain ⟨moment, -, isCall⟩ := List.mem_flatMap.mp member
  obtain ⟨entry, isListener, rfl⟩ := List.mem_map.mp isCall
  exact (mem_listeners.mp isListener).2

theorem SoloOf.found {registry alone : Registry σ} {id : Nat} {check : Check σ}
    (solo : SoloOf registry id check alone) : alone.checks[0]? = some check := by
  rw [solo.checks]
  rfl

theorem SoloOf.hears_eq {registry alone : Registry σ} {id : Nat} {check : Check σ}
    (solo : SoloOf registry id check alone) (tree : Tree) (moment : Moment) :
    alone.hears tree 0 moment = registry.hears tree id moment := by
  cases moment <;> simp [Registry.hears, solo.hears]

theorem SoloOf.schedule_eq {registry alone : Registry σ} {id : Nat} {check : Check σ}
    (solo : SoloOf registry id check alone) (orderly : Orderly registry)
    (found : registry.checks[id]? = some check) (tree : Tree) :
    alone.schedule tree = soloPart id (registry.schedule tree) := by
  have only : ∀ call ∈ alone.schedule tree, call.number = 0 := by
    intro call member
    have present := (Array.getElem?_eq_some_iff.mp (number_of_mem_schedule member)).1
    simpa [solo.checks] using present
  rw [← soloPart_eq_self only, schedule, schedule, soloPart_flatMap, soloPart_flatMap]
  congr 1
  funext moment
  rw [soloPart_hookCalls solo.reachable.orderly tree solo.found, solo.hears_eq,
    soloPart_hookCalls orderly tree found]

def kindsOf (registry : Registry σ) (id : Nat) : List Kind :=
  (registry.subscriptions.filter fun subscription => subscription.id = id).map Subscription.kind

theorem mem_kindsOf {registry : Registry σ} {id : Nat} {kind : Kind} :
    kind ∈ registry.kindsOf id ↔ ⟨kind, id⟩ ∈ registry.subscriptions := by
  rw [kindsOf, List.mem_map]
  constructor
  · rintro ⟨⟨heard, listener⟩, member, rfl⟩
    obtain ⟨present, isListener⟩ := List.mem_filter.mp member
    rw [decide_eq_true_eq] at isListener
    exact isListener ▸ present
  · intro present
    exact ⟨_, List.mem_filter.mpr ⟨present, by simp⟩, rfl⟩

/-- The registry in which a check is alone: it is registered, and then it is
subscribed to the kinds that it listens to in the given registry. -/
def solo (registry : Registry σ) (id : Nat) (check : Check σ) : Registry σ :=
  after [.register check, .subscribe 0 (registry.kindsOf id)]

theorem Orderly.solo_eq {registry : Registry σ} (orderly : Orderly registry) {id : Nat}
    {check : Check σ} (found : registry.checks[id]? = some check) :
    registry.solo id check =
      ⟨#[check], listenTo (listenTo [] 0 check.kinds) 0 (registry.kindsOf id)⟩ := by
  obtain ⟨someKind, declared⟩ := orderly.declared id check found
  have known : .unknown ∉ registry.kindsOf id := fun unknown =>
    orderly.known _ (mem_kindsOf.mp unknown) rfl
  have declaredKnown : .unknown ∉ check.kinds := fun unknown =>
    known (mem_kindsOf.mpr (declared _ unknown))
  have someHeard : registry.kindsOf id ≠ [] := by
    obtain ⟨kind, isDeclared⟩ := List.exists_mem_of_ne_nil _ someKind
    exact List.ne_nil_of_mem (mem_kindsOf.mpr (declared kind isDeclared))
  have registered : empty.step (.register check) = ⟨#[check], listenTo [] 0 check.kinds⟩ :=
    step_register someKind declaredKnown (by simp [rules, empty])
  rw [solo, after, List.foldl_cons, List.foldl_cons, List.foldl_nil, registered,
    step_subscribe (by simp [size]) someHeard known]

theorem Orderly.soloOf_solo {registry : Registry σ} (orderly : Orderly registry) {id : Nat}
    {check : Check σ} (found : registry.checks[id]? = some check) :
    SoloOf registry id check (registry.solo id check) where
  reachable := ⟨_, rfl⟩
  checks := by rw [orderly.solo_eq found]
  hears := by
    intro kind
    obtain ⟨-, declared⟩ := orderly.declared id check found
    rw [orderly.solo_eq found, mem_listenTo, mem_listenTo, mem_kindsOf]
    simpa using declared kind

/-! ## Walks with many checks and with one -/

section Comparison

variable {registry alone : Registry σ} {id : Nat} {check : Check σ}

theorem Orderly.tells_schedule (orderly : Orderly registry)
    (found : registry.checks[id]? = some check) (tree : Tree) :
    Session.Tells id check.rule (registry.schedule tree) := by
  intro call member
  exact orderly.rule_eq_iff found (number_of_mem_schedule member)

theorem SoloOf.performance_eq (solo : SoloOf registry id check alone) (orderly : Orderly registry)
    (found : registry.checks[id]? = some check) (fresh : σ) (tree : Tree) :
    alone.performance fresh tree =
      (Session.start fresh []).after
        (Session.play tree (soloPart id (registry.schedule tree))) := by
  rw [performance, solo.schedule_eq orderly found]

theorem SoloOf.reports_prefix (solo : SoloOf registry id check alone) (orderly : Orderly registry)
    (found : registry.checks[id]? = some check) (fresh : σ) (tree : Tree) :
    ofRule check.rule (registry.reports fresh tree) <+: alone.reports fresh tree := by
  rw [registry.reports_eq, alone.reports_eq, solo.performance_eq orderly found]
  exact Session.play_prefix tree (orderly.tells_schedule found tree)
    (Session.shadows_start _ _ fresh)

theorem SoloOf.succeeds (solo : SoloOf registry id check alone) (orderly : Orderly registry)
    (found : registry.checks[id]? = some check) {fresh : σ} {tree : Tree}
    (succeeds : registry.Succeeds fresh tree) :
    alone.Succeeds fresh tree ∧
      ofRule check.rule (registry.reports fresh tree) = alone.reports fresh tree := by
  rw [succeeds_iff] at succeeds ⊢
  rw [registry.reports_eq, alone.reports_eq, solo.performance_eq orderly found]
  obtain ⟨succeedsAlone, shadows⟩ := Session.play_ok (orderly.tells_schedule found tree)
    (Session.shadows_start _ _ fresh) succeeds
  exact ⟨succeedsAlone, shadows.sink.symm⟩

end Comparison

theorem Orderly.succeeds_of_solos {registry : Registry σ} (orderly : Orderly registry) {fresh : σ}
    {tree : Tree}
    (solos : ∀ id check, registry.checks[id]? = some check →
      ∃ alone, SoloOf registry id check alone ∧ alone.Succeeds fresh tree) :
    registry.Succeeds fresh tree := by
  rw [succeeds_iff]
  cases ended : (registry.performance fresh tree).1 with
  | ok _ => rfl
  | error error =>
      obtain ⟨call, member, failsAlone⟩ := Session.play_error ended
      have found := number_of_mem_schedule member
      obtain ⟨alone, solo, succeeds⟩ := solos _ _ found
      rw [succeeds_iff, solo.performance_eq orderly found, failsAlone _ rfl] at succeeds
      cases succeeds

theorem Orderly.succeeds_iff_solos {registry : Registry σ} (orderly : Orderly registry)
    {fresh : σ} {tree : Tree} :
    registry.Succeeds fresh tree ↔
      ∀ id check, registry.checks[id]? = some check →
        (registry.solo id check).Succeeds fresh tree := by
  constructor
  · intro succeeds id check found
    exact ((orderly.soloOf_solo found).succeeds orderly found succeeds).1
  · intro solos
    apply orderly.succeeds_of_solos
    intro id check found
    exact ⟨_, orderly.soloOf_solo found, solos id check found⟩

/-- Nothing is filed under a rule that no check has: the calls of a number that
is not given out are none. -/
theorem ofRule_reports_of_not_mem {registry : Registry σ} {rule : String}
    (absent : rule ∉ registry.rules) (fresh : σ) (tree : Tree) :
    ofRule rule (registry.reports fresh tree) = [] := by
  have inside : ∀ call ∈ registry.schedule tree,
      call.number ≠ registry.size ∧ call.check.rule ≠ rule := by
    intro call member
    have found := number_of_mem_schedule member
    have present := Array.mem_of_getElem? found
    refine ⟨Nat.ne_of_lt (Array.getElem?_eq_some_iff.mp found).1, ?_⟩
    rintro rfl
    exact absent (List.mem_map.mpr ⟨_, present.val, rfl⟩)
  have tells : Session.Tells registry.size rule (registry.schedule tree) := by
    intro call member
    obtain ⟨otherNumber, otherRule⟩ := inside call member
    exact iff_of_false otherRule otherNumber
  have noCalls : soloPart registry.size (registry.schedule tree) = [] := by
    rw [soloPart, List.map_eq_nil_iff, List.filter_eq_nil_iff]
    intro call member
    simpa using (inside call member).1
  -- The comparison does not ask for a check behind the number.
  have filed := Session.play_prefix tree tells (Session.shadows_start _ _ fresh)
  rw [noCalls] at filed
  rw [reports_eq]
  exact List.prefix_nil.mp filed

/-! ## The order of registration -/

/-- The other registry has the same checks, each of which listens to the same
kinds; they may be numbered in another way and asked in another order. -/
structure Rearranged (registry other : Registry σ) : Prop where
  checks : ∀ check, check ∈ other.checks ↔ check ∈ registry.checks
  hears : ∀ check id number,
    registry.checks[id]? = some check → other.checks[number]? = some check →
      ∀ kind, ⟨kind, number⟩ ∈ other.subscriptions ↔ ⟨kind, id⟩ ∈ registry.subscriptions

theorem Rearranged.mem_rules {registry other : Registry σ}
    (rearranged : Rearranged registry other) (rule : String) :
    rule ∈ other.rules ↔ rule ∈ registry.rules := by
  simp [rules, rearranged.checks]

/-- A check is alone in the same way in both registries. -/
theorem Rearranged.soloOf {registry other alone : Registry σ}
    (rearranged : Rearranged registry other) {check : Check σ} {id number : Nat}
    (found : registry.checks[id]? = some check) (otherFound : other.checks[number]? = some check)
    (solo : SoloOf registry id check alone) : SoloOf other number check alone where
  reachable := solo.reachable
  checks := solo.checks
  hears := by
    intro kind
    rw [solo.hears, rearranged.hears check id number found otherFound]

theorem Rearranged.succeeds {registry other : Registry σ}
    (rearranged : Rearranged registry other) (orderly : Orderly registry)
    (otherOrderly : Orderly other) {fresh : σ} {tree : Tree}
    (succeeds : registry.Succeeds fresh tree) : other.Succeeds fresh tree := by
  apply otherOrderly.succeeds_of_solos
  intro number check otherFound
  obtain ⟨id, found⟩ := Array.getElem?_of_mem
    ((rearranged.checks check).mp (Array.mem_of_getElem? otherFound))
  have solo := orderly.soloOf_solo found
  exact ⟨_, rearranged.soloOf found otherFound solo, (solo.succeeds orderly found succeeds).1⟩

theorem Rearranged.ofRule_reports {registry other : Registry σ}
    (rearranged : Rearranged registry other) (orderly : Orderly registry)
    (otherOrderly : Orderly other) {fresh : σ} {tree : Tree}
    (succeeds : registry.Succeeds fresh tree) (rule : String) :
    ofRule rule (other.reports fresh tree) = ofRule rule (registry.reports fresh tree) := by
  by_cases present : rule ∈ registry.rules
  · obtain ⟨check, isCheck, rfl⟩ := List.mem_map.mp present
    have member : check ∈ registry.checks := ⟨isCheck⟩
    obtain ⟨id, found⟩ := Array.getElem?_of_mem member
    obtain ⟨number, otherFound⟩ := Array.getElem?_of_mem ((rearranged.checks check).mpr member)
    have solo := orderly.soloOf_solo found
    have otherSolo := rearranged.soloOf found otherFound solo
    have otherSucceeds := rearranged.succeeds orderly otherOrderly succeeds
    calc
      _ = (registry.solo id check).reports fresh tree :=
        (otherSolo.succeeds otherOrderly otherFound otherSucceeds).2
      _ = _ := (solo.succeeds orderly found succeeds).2.symm
  · have otherAbsent := mt (rearranged.mem_rules rule).mp present
    rw [ofRule_reports_of_not_mem present, ofRule_reports_of_not_mem otherAbsent]

end Registry

theorem perm_of_ofRule_eq {first second : List Violation}
    (same : ∀ rule, ofRule rule first = ofRule rule second) : first.Perm second := by
  have counted : ∀ (violation : Violation) (violations : List Violation),
      (ofRule violation.rule violations).count violation = violations.count violation := by
    intro violation violations
    exact List.count_filter (by simp)
  rw [List.perm_iff_count]
  intro violation
  rw [← counted, same, counted]

/-- What is filed under the rule of a check begins what the check files alone,
and it is all of that if the walk succeeds.  A walk succeeds exactly if it does
for each check alone.  So the order of registration and of subscription changes
how the violations of a successful walk interleave and nothing else. -/
theorem checks_do_not_interfere {σ : Type} (fresh : σ) (tree : Tree) (registry : Registry σ)
    (reachable : registry.Reachable) :
    (∀ id check, registry.checks[id]? = some check →
      registry.SoloOf id check (registry.solo id check) ∧
      ∀ alone, registry.SoloOf id check alone →
        ofRule check.rule (registry.reports fresh tree) <+: alone.reports fresh tree ∧
        (registry.Succeeds fresh tree →
          ofRule check.rule (registry.reports fresh tree) = alone.reports fresh tree)) ∧
    (registry.Succeeds fresh tree ↔
      ∀ id check, registry.checks[id]? = some check →
        (registry.solo id check).Succeeds fresh tree) ∧
    ∀ other, other.Reachable → registry.Rearranged other → registry.Succeeds fresh tree →
      other.Succeeds fresh tree ∧
      (∀ rule, ofRule rule (other.reports fresh tree) =
        ofRule rule (registry.reports fresh tree)) ∧
      (other.reports fresh tree).Perm (registry.reports fresh tree) := by
  have orderly := reachable.orderly
  refine ⟨?_, orderly.succeeds_iff_solos, ?_⟩
  · intro id check found
    refine ⟨orderly.soloOf_solo found, ?_⟩
    intro alone solo
    exact ⟨solo.reports_prefix orderly found fresh tree,
      fun succeeds => (solo.succeeds orderly found succeeds).2⟩
  · intro other otherReachable rearranged succeeds
    have sameLists := rearranged.ofRule_reports orderly otherReachable.orderly succeeds
    exact ⟨rearranged.succeeds orderly otherReachable.orderly succeeds, sameLists,
      perm_of_ofRule_eq sameLists⟩

/-- Numbers the nodes that it sees, and gives up when it has numbered `limit`
of them. -/
def numbering (rule : String) (kinds : List Kind) (limit : Nat) : Check Nat where
  rule := rule
  name := "Numbering"
  description := "Numbers nodes up to a limit"
  kinds := kinds
  visitNode _ node seen :=
    { state := seen + 1
      findings := [⟨node, "node", [toString seen]⟩]
      failure := if seen + 1 = limit then some (.checkFailed rule "limit reached") else none }

def words : Check Nat := numbering "words" [.returnKw] 9

def marks (limit : Nat) : Check Nat := numbering "marks" [.returnKw, .semicolon] limit

/-- Both checks listen to keywords and semicolons, and `words` is called first. -/
def wordsFirst (limit : Nat) : Registry Nat :=
  .after [.register words, .subscribe 0 [.semicolon], .register (marks limit)]

def marksFirst : Registry Nat :=
  .after [.register (marks 9), .register words, .subscribe 1 [.semicolon]]

theorem marksFirst_rearranged : (wordsFirst 9).Rearranged marksFirst where
  checks := by
    have checks : (wordsFirst 9).checks = #[words, marks 9] := rfl
    have otherChecks : marksFirst.checks = #[marks 9, words] := rfl
    intro check
    rw [checks, otherChecks]
    simp [or_comm]
  hears := by
    have same : marksFirst.subscriptions = (wordsFirst 9).subscriptions := rfl
    have heard : (wordsFirst 9).subscriptions =
        [⟨.returnKw, 0⟩, ⟨.semicolon, 0⟩, ⟨.returnKw, 1⟩, ⟨.semicolon, 1⟩] := rfl
    intro check id number found otherFound kind
    have inside : id < 2 := (Array.getElem?_eq_some_iff.mp found).1
    have otherInside : number < 2 := (Array.getElem?_eq_some_iff.mp otherFound).1
    rw [same, heard]
    grind

theorem wordsFirst_undisturbed :
    ∃ tree, (Builder.after bareReturn).finish = .ok tree ∧
      (wordsFirst 9).Succeeds 0 tree ∧
      ((wordsFirst 9).reports 0 tree).map Violation.rule = ["words", "marks", "words", "marks"] ∧
      (marksFirst.reports 0 tree).map Violation.rule = ["marks", "words", "marks", "words"] ∧
      (marksFirst.reports 0 tree).Perm ((wordsFirst 9).reports 0 tree) ∧
      ofRule "words" ((wordsFirst 9).reports 0 tree) =
        ((wordsFirst 9).solo 0 words).reports 0 tree ∧
      ¬ (wordsFirst 1).Succeeds 0 tree ∧
      (ofRule "words" ((wordsFirst 1).reports 0 tree)).length = 1 ∧
      (((wordsFirst 1).solo 0 words).reports 0 tree).length = 2 ∧
      ofRule "words" ((wordsFirst 1).reports 0 tree) <+:
        ((wordsFirst 1).solo 0 words).reports 0 tree := by
  refine ⟨_, rfl, ?_⟩
  obtain ⟨alone, -, rearranged⟩ :=
    checks_do_not_interfere 0 _ (wordsFirst 9) ⟨_, rfl⟩
  obtain ⟨aloneStopped, -, -⟩ := checks_do_not_interfere 0 _ (wordsFirst 1) ⟨_, rfl⟩
  obtain ⟨solo, undisturbed⟩ := alone 0 words rfl
  obtain ⟨soloStopped, begun⟩ := aloneStopped 0 words rfl
  refine ⟨by decide +kernel, ?_, ?_, ?_, ?_, by decide +kernel, ?_, ?_, ?_⟩
  · rw [Registry.reports_eq]
    decide +kernel
  · rw [Registry.reports_eq]
    decide +kernel
  · exact (rearranged _ ⟨_, rfl⟩ marksFirst_rearranged (by decide +kernel)).2.2
  · exact (undisturbed _ solo).2 (by decide +kernel)
  · rw [Registry.reports_eq]
    decide +kernel
  · rw [Registry.reports_eq]
    decide +kernel
  · exact (begun _ soloStopped).1

end TreeLint
