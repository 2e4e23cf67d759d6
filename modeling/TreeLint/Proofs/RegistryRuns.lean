import Mathlib.Data.List.Nodup
import TreeLint.Registry

/-!
# Histories of a registry

A history makes calls on an empty registry; a refused call leaves the registry
as it was.  After every history the rules are distinct, nobody listens to a
kind twice, and every check listens at least to the kinds that it declares.
-/

namespace TreeLint

inductive RegistryCall (σ : Type) where
  | register (check : Check σ)
  | subscribe (id : Nat) (kinds : List Kind)

namespace Registry

variable {σ : Type}

def call (registry : Registry σ) : RegistryCall σ → Except Error (Registry σ)
  | .register check => (registry.register check).map Prod.snd
  | .subscribe id kinds => registry.subscribe id kinds

/-- The registry after a call, which a refused call does not change. -/
def step (registry : Registry σ) (call : RegistryCall σ) : Registry σ :=
  match registry.call call with
  | .ok next => next
  | .error _ => registry

/-- The registry after a history. -/
def after (calls : List (RegistryCall σ)) : Registry σ :=
  calls.foldl step empty

/-! ## What the calls do -/

/-- The subscriptions after one check listens to more kinds. -/
def listenTo (subscriptions : List Subscription) (id : Nat) (kinds : List Kind) :
    List Subscription :=
  kinds.foldl (fun subscriptions kind => addSubscription subscriptions ⟨kind, id⟩) subscriptions

theorem mem_addSubscription {subscriptions : List Subscription}
    {new subscription : Subscription} :
    subscription ∈ addSubscription subscriptions new ↔
      subscription ∈ subscriptions ∨ subscription = new := by
  unfold addSubscription
  split
  · rename_i present
    constructor
    · exact Or.inl
    · rintro (old | rfl)
      · exact old
      · exact present
  · simp

theorem nodup_addSubscription {subscriptions : List Subscription} {new : Subscription}
    (nodup : subscriptions.Nodup) : (addSubscription subscriptions new).Nodup := by
  unfold addSubscription
  split
  · exact nodup
  · rename_i absent
    exact List.nodup_append.mpr ⟨nodup, List.nodup_singleton _, by
      intro old isOld added isAdded same
      rw [List.mem_singleton.mp isAdded] at same
      exact absent (same ▸ isOld)⟩

theorem mem_listenTo {subscriptions : List Subscription} {id : Nat} {kinds : List Kind}
    {subscription : Subscription} :
    subscription ∈ listenTo subscriptions id kinds ↔
      subscription ∈ subscriptions ∨ subscription.id = id ∧ subscription.kind ∈ kinds := by
  unfold listenTo
  induction kinds generalizing subscriptions with
  | nil => simp
  | cons kind rest ih =>
      obtain ⟨heard, listener⟩ := subscription
      rw [List.foldl_cons, ih, mem_addSubscription, Subscription.mk.injEq, List.mem_cons]
      grind

theorem nodup_listenTo {subscriptions : List Subscription} (id : Nat) (kinds : List Kind)
    (nodup : subscriptions.Nodup) : (listenTo subscriptions id kinds).Nodup := by
  unfold listenTo
  induction kinds generalizing subscriptions with
  | nil => exact nodup
  | cons kind rest ih => exact ih (nodup_addSubscription nodup)

theorem validateKinds_ok_iff (rule : String) (kinds : List Kind) :
    validateKinds rule kinds = .ok () ↔ kinds ≠ [] ∧ .unknown ∉ kinds := by
  unfold validateKinds
  cases kinds with
  | nil => simp
  | cons kind rest =>
      by_cases unknown : Kind.unknown ∈ kind :: rest <;> simp [unknown]

theorem subscribe_ok_iff (registry next : Registry σ) (id : Nat) (kinds : List Kind) :
    registry.subscribe id kinds = .ok next ↔
      id < registry.size ∧ kinds ≠ [] ∧ .unknown ∉ kinds ∧
        next = { registry with subscriptions := listenTo registry.subscriptions id kinds } := by
  unfold subscribe
  cases found : registry.checks[id]? with
  | none =>
      have outside := Array.getElem?_eq_none_iff.mp found
      simp [size, Nat.not_lt.mpr outside]
  | some check =>
      have inside := (Array.getElem?_eq_some_iff.mp found).1
      have valid := validateKinds_ok_iff check.rule kinds
      dsimp only
      cases validated : validateKinds check.rule kinds with
      | error error =>
          rw [validated] at valid
          simp only [reduceCtorEq, false_iff, not_and] at valid ⊢
          exact fun _ some known _ => valid some known
      | ok _ =>
          have accepted := valid.mp validated
          simp [size, inside, accepted, listenTo, eq_comm]

theorem find?_isSome_iff (registry : Registry σ) (rule : String) :
    (registry.find? rule).isSome ↔ rule ∈ registry.rules := by
  have checks : registry.entries.map Prod.snd = registry.checks.toList := by
    rw [entries, List.map_map]
    exact List.zipIdx_map_fst 0 registry.checks.toList
  rw [find?, List.find?_isSome, rules, ← checks]
  simp

theorem register_ok_iff (registry next : Registry σ) (check : Check σ) (id : Nat) :
    registry.register check = .ok (id, next) ↔
      check.kinds ≠ [] ∧ .unknown ∉ check.kinds ∧ check.rule ∉ registry.rules ∧
        id = registry.size ∧
        next = ⟨registry.checks.push check,
          listenTo registry.subscriptions registry.size check.kinds⟩ := by
  have valid := validateKinds_ok_iff check.rule check.kinds
  have taken := registry.find?_isSome_iff check.rule
  unfold register
  cases validated : validateKinds check.rule check.kinds with
  | error error =>
      rw [validated] at valid
      simp only [reduceCtorEq, false_iff, not_and] at valid ⊢
      exact fun some known _ _ => absurd known (valid some)
  | ok _ =>
      obtain ⟨someKind, known⟩ := valid.mp validated
      dsimp only
      split
      · rename_i isTaken
        simp [taken.mp isTaken]
      · rename_i isFree
        have subscribed := (subscribe_ok_iff ⟨registry.checks.push check, registry.subscriptions⟩
          _ registry.checks.size check.kinds).mpr ⟨by simp [size], someKind, known, rfl⟩
        rw [subscribed]
        simp [someKind, known, mt taken.mpr isFree, size, eq_comm]

/-- Everything that a call can do. -/
theorem call_ok {registry next : Registry σ} {call : RegistryCall σ}
    (made : registry.call call = .ok next) :
    (∃ check, call = .register check ∧ check.kinds ≠ [] ∧ .unknown ∉ check.kinds ∧
      check.rule ∉ registry.rules ∧
      next = ⟨registry.checks.push check,
        listenTo registry.subscriptions registry.size check.kinds⟩) ∨
    (∃ id kinds, call = .subscribe id kinds ∧ id < registry.size ∧ kinds ≠ [] ∧
      .unknown ∉ kinds ∧
      next = { registry with subscriptions := listenTo registry.subscriptions id kinds }) := by
  cases call with
  | register check =>
      rw [Registry.call] at made
      cases registered : registry.register check with
      | error error =>
          rw [registered] at made
          cases made
      | ok answer =>
          rw [registered] at made
          cases made
          obtain ⟨someKind, known, free, -, result⟩ := (register_ok_iff ..).mp registered
          exact .inl ⟨check, rfl, someKind, known, free, result⟩
  | subscribe id kinds =>
      exact .inr ⟨id, kinds, rfl, (subscribe_ok_iff ..).mp made⟩

theorem step_register {registry : Registry σ} {check : Check σ} (someKind : check.kinds ≠ [])
    (known : .unknown ∉ check.kinds) (free : check.rule ∉ registry.rules) :
    registry.step (.register check) =
      ⟨registry.checks.push check,
        listenTo registry.subscriptions registry.size check.kinds⟩ := by
  have made := (register_ok_iff registry _ check _).mpr ⟨someKind, known, free, rfl, rfl⟩
  rw [step, call, made]
  rfl

theorem step_subscribe {registry : Registry σ} {id : Nat} {kinds : List Kind}
    (inside : id < registry.size) (someKind : kinds ≠ []) (known : .unknown ∉ kinds) :
    registry.step (.subscribe id kinds) =
      { registry with subscriptions := listenTo registry.subscriptions id kinds } := by
  have made := (subscribe_ok_iff registry _ id kinds).mpr ⟨inside, someKind, known, rfl⟩
  rw [step, call, made]

/-! ## What every history keeps -/

structure Orderly (registry : Registry σ) : Prop where
  rulesNodup : registry.rules.Nodup
  subscriptionsNodup : registry.subscriptions.Nodup
  registered : ∀ subscription ∈ registry.subscriptions, subscription.id < registry.size
  known : ∀ subscription ∈ registry.subscriptions, subscription.kind ≠ .unknown
  declared : ∀ id check, registry.checks[id]? = some check →
    check.kinds ≠ [] ∧ ∀ kind ∈ check.kinds, ⟨kind, id⟩ ∈ registry.subscriptions

theorem orderly_empty : Orderly (empty : Registry σ) where
  rulesNodup := List.nodup_nil
  subscriptionsNodup := List.nodup_nil
  registered := by simp [empty]
  known := by simp [empty]
  declared := by simp [empty]

theorem orderly_register {registry : Registry σ} {check : Check σ} (orderly : Orderly registry)
    (someKind : check.kinds ≠ []) (known : .unknown ∉ check.kinds)
    (free : check.rule ∉ registry.rules) :
    Orderly ⟨registry.checks.push check,
      listenTo registry.subscriptions registry.size check.kinds⟩ where
  rulesNodup := by
    have rules : rules ⟨registry.checks.push check,
        listenTo registry.subscriptions registry.size check.kinds⟩ =
        registry.rules ++ [check.rule] := by
      simp [Registry.rules]
    rw [rules]
    exact List.nodup_append.mpr ⟨orderly.rulesNodup, List.nodup_singleton _, by
      intro old isOld added isAdded same
      rw [List.mem_singleton.mp isAdded] at same
      exact free (same ▸ isOld)⟩
  subscriptionsNodup := nodup_listenTo _ _ orderly.subscriptionsNodup
  registered := by
    intro subscription member
    have grown : size ⟨registry.checks.push check,
        listenTo registry.subscriptions registry.size check.kinds⟩ = registry.size + 1 := by
      simp [size]
    rcases mem_listenTo.mp member with old | ⟨new, -⟩
    · have inside := orderly.registered subscription old
      omega
    · omega
  known := by
    intro subscription member isUnknown
    rcases mem_listenTo.mp member with old | ⟨-, declared⟩
    · exact orderly.known subscription old isUnknown
    · exact known (isUnknown ▸ declared)
  declared := by
    intro id entry found
    dsimp only at found ⊢
    rw [Array.getElem?_push] at found
    split at found
    · rename_i isNew
      cases found
      exact ⟨someKind, fun kind declared => mem_listenTo.mpr (.inr ⟨isNew, declared⟩)⟩
    · obtain ⟨someOld, heard⟩ := orderly.declared id entry found
      exact ⟨someOld, fun kind declared => mem_listenTo.mpr (.inl (heard kind declared))⟩

theorem orderly_subscribe {registry : Registry σ} {id : Nat} {kinds : List Kind}
    (orderly : Orderly registry) (inside : id < registry.size) (known : .unknown ∉ kinds) :
    Orderly { registry with subscriptions := listenTo registry.subscriptions id kinds } where
  rulesNodup := orderly.rulesNodup
  subscriptionsNodup := nodup_listenTo _ _ orderly.subscriptionsNodup
  registered := by
    intro subscription member
    rcases mem_listenTo.mp member with old | ⟨new, -⟩
    · exact orderly.registered subscription old
    · exact new ▸ inside
  known := by
    intro subscription member isUnknown
    rcases mem_listenTo.mp member with old | ⟨-, added⟩
    · exact orderly.known subscription old isUnknown
    · exact known (isUnknown ▸ added)
  declared := by
    intro other check found
    obtain ⟨someKind, heard⟩ := orderly.declared other check found
    exact ⟨someKind, fun kind declared => mem_listenTo.mpr (.inl (heard kind declared))⟩

theorem orderly_step {registry : Registry σ} (orderly : Orderly registry)
    (call : RegistryCall σ) : Orderly (registry.step call) := by
  unfold step
  split
  · rename_i next made
    obtain ⟨check, -, someKind, known, free, rfl⟩ | ⟨id, kinds, -, inside, -, known, rfl⟩ :=
      call_ok made
    · exact orderly_register orderly someKind known free
    · exact orderly_subscribe orderly inside known
  · exact orderly

theorem orderly_after (calls : List (RegistryCall σ)) : Orderly (after calls) :=
  List.foldlRecOn calls step orderly_empty fun _ orderly call _ => orderly_step orderly call

/-! ## Numbered checks -/

theorem mem_entries {registry : Registry σ} {id : Nat} {check : Check σ} :
    (id, check) ∈ registry.entries ↔ registry.checks[id]? = some check := by
  rw [entries, List.mem_map]
  constructor
  · rintro ⟨⟨entry, number⟩, member, same⟩
    cases same
    rw [List.mk_mem_zipIdx_iff_getElem?] at member
    simpa using member
  · intro found
    refine ⟨(check, id), ?_, rfl⟩
    rw [List.mk_mem_zipIdx_iff_getElem?]
    simpa using found

theorem entries_nodup (registry : Registry σ) : (registry.entries.map Prod.fst).Nodup := by
  have numbers : registry.entries.map Prod.fst = List.range' 0 registry.checks.toList.length := by
    rw [entries, List.map_map]
    exact List.zipIdx_map_snd 0 registry.checks.toList
  rw [numbers]
  exact List.nodup_range'

theorem mem_subscribers {registry : Registry σ} {kind : Kind} {id : Nat} :
    id ∈ registry.subscribers kind ↔ ⟨kind, id⟩ ∈ registry.subscriptions := by
  rw [subscribers, List.mem_filterMap]
  constructor
  · rintro ⟨⟨heard, listener⟩, member, same⟩
    simp only [Option.ite_none_right_eq_some, Option.some.injEq] at same
    obtain ⟨rfl, rfl⟩ := same
    exact member
  · intro member
    exact ⟨_, member, by simp⟩

theorem mem_checksFor {registry : Registry σ} {kind : Kind} {id : Nat} {check : Check σ} :
    (id, check) ∈ registry.checksFor kind ↔
      ⟨kind, id⟩ ∈ registry.subscriptions ∧ registry.checks[id]? = some check := by
  rw [← mem_subscribers, checksFor, List.mem_filterMap]
  simp

theorem Orderly.checksFor_nodup {registry : Registry σ} (orderly : Orderly registry)
    (kind : Kind) : ((registry.checksFor kind).map Prod.fst).Nodup := by
  have listeners : (registry.subscribers kind).Nodup := by
    refine List.Nodup.filterMap ?_ orderly.subscriptionsNodup
    rintro ⟨kind₁, id₁⟩ ⟨kind₂, id₂⟩ id isFirst isSecond
    simp only [Option.mem_def, Option.ite_none_right_eq_some, Option.some.injEq] at isFirst isSecond
    simp [isFirst, isSecond]
  rw [checksFor, List.map_filterMap]
  refine List.Nodup.filterMap ?_ listeners
  intro first second id isFirst isSecond
  simp only [Option.map_map, Option.mem_def, Option.map_eq_some_iff, Function.comp_apply]
    at isFirst isSecond
  obtain ⟨-, -, rfl⟩ := isFirst
  obtain ⟨-, -, rfl⟩ := isSecond
  rfl

/-- The rule of a check tells its number. -/
theorem Orderly.rule_eq_iff {registry : Registry σ} (orderly : Orderly registry)
    {id other : Nat} {check otherCheck : Check σ} (found : registry.checks[id]? = some check)
    (otherFound : registry.checks[other]? = some otherCheck) :
    otherCheck.rule = check.rule ↔ other = id := by
  have ruleAt : ∀ {number : Nat} {entry : Check σ}, registry.checks[number]? = some entry →
      registry.rules[number]? = some entry.rule := by
    intro number entry present
    simp [rules, present]
  have inside : other < registry.rules.length :=
    (List.getElem?_eq_some_iff.mp (ruleAt otherFound)).1
  have injective := List.getElem?_inj inside orderly.rulesNodup (j := id)
  rw [ruleAt otherFound, ruleAt found, Option.some.injEq] at injective
  exact injective

end Registry

end TreeLint
