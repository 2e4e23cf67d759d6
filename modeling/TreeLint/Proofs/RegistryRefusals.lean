import TreeLint.Proofs.RegistryRuns

/-!
# Refused calls of a registry

A refused call names the first of its faults, and it leaves the registry as it was.
The second is not plain from the way a registration proceeds: it appends the check
before it lets it listen to its kinds, and listening could be refused.  This module
states the calls as edits of a registry, where everything done before an error stays
done, and shows that they come to the same as the calls that answer with a new
registry or an error.
-/

namespace TreeLint

namespace Registry

variable {σ α β : Type}

/-! ## The first fault -/

theorem validateKinds_error_iff (rule : String) (kinds : List Kind) (error : Error) :
    validateKinds rule kinds = .error error ↔
      (kinds = [] ∧ error = .emptySubscription rule) ∨
      (kinds ≠ [] ∧ .unknown ∈ kinds ∧ error = .unknownKindSubscription rule) := by
  unfold validateKinds
  cases kinds with
  | nil => simp [eq_comm]
  | cons kind rest =>
      by_cases unknown : Kind.unknown ∈ kind :: rest <;> simp [unknown, eq_comm]

theorem subscribe_error_iff (registry : Registry σ) (id : Nat) (kinds : List Kind)
    (error : Error) :
    registry.subscribe id kinds = .error error ↔
      (registry.size ≤ id ∧ error = .unknownCheck id) ∨
      ∃ check, registry.get? id = some check ∧
        ((kinds = [] ∧ error = .emptySubscription check.rule) ∨
          (kinds ≠ [] ∧ .unknown ∈ kinds ∧ error = .unknownKindSubscription check.rule)) := by
  unfold subscribe get?
  cases found : registry.checks[id]? with
  | none =>
      have outside : registry.size ≤ id := Array.getElem?_eq_none_iff.mp found
      simp [outside, eq_comm]
  | some check =>
      have inside : ¬ registry.size ≤ id :=
        Nat.not_le.mpr (Array.getElem?_eq_some_iff.mp found).1
      simp only [Option.some.injEq, exists_eq_left', inside, false_and, false_or,
        ← validateKinds_error_iff]
      cases validateKinds check.rule kinds <;> simp

/-- A check that was just appended may listen to its kinds. -/
theorem subscribe_appended (registry : Registry σ) {check : Check σ}
    (someKind : check.kinds ≠ []) (known : .unknown ∉ check.kinds) :
    subscribe { registry with checks := registry.checks.push check } registry.size check.kinds =
      .ok ⟨registry.checks.push check,
        listenTo registry.subscriptions registry.size check.kinds⟩ := by
  rw [subscribe_ok_iff]
  refine ⟨?_, someKind, known, rfl⟩
  simp [size]

theorem register_error_iff (registry : Registry σ) (check : Check σ) (error : Error) :
    registry.register check = .error error ↔
      (check.kinds = [] ∧ error = .emptySubscription check.rule) ∨
      (check.kinds ≠ [] ∧ .unknown ∈ check.kinds ∧
        error = .unknownKindSubscription check.rule) ∨
      (check.kinds ≠ [] ∧ .unknown ∉ check.kinds ∧ check.rule ∈ registry.rules ∧
        error = .duplicateRule check.rule) := by
  have valid := validateKinds_ok_iff check.rule check.kinds
  have invalid := validateKinds_error_iff check.rule check.kinds error
  have taken := registry.find?_isSome_iff check.rule
  unfold register
  cases validated : validateKinds check.rule check.kinds with
  | error fault =>
      rw [validated] at valid invalid
      have refused : ¬ (check.kinds ≠ [] ∧ .unknown ∉ check.kinds) := mt valid.mpr (by simp)
      simp only [Except.error.injEq] at invalid ⊢
      rw [invalid, ← or_assoc, iff_self_or]
      rintro ⟨someKind, known, -⟩
      exact absurd ⟨someKind, known⟩ refused
  | ok _ =>
      obtain ⟨someKind, known⟩ := valid.mp validated
      dsimp only
      split
      · rename_i isTaken
        simp [someKind, known, taken.mp isTaken, eq_comm]
      · rename_i isFree
        have appended := registry.subscribe_appended someKind known
        rw [size] at appended
        rw [appended]
        simp [someKind, known, mt taken.mpr isFree]

/-! ## Calls as edits -/

/-- An edit of a registry.  An error ends it and leaves the registry as it is at that
moment. -/
abbrev Edit (σ : Type) := ExceptT Error (StateM (Registry σ))

/-- The answer of an edit and the registry that it leaves. -/
def edited (registry : Registry σ) (edit : Edit σ α) : Except Error α × Registry σ :=
  edit.run.run registry

/-- Appends a listener of a kind. -/
def listen (registry : Registry σ) (id : Nat) (kind : Kind) : Registry σ :=
  { registry with subscriptions := addSubscription registry.subscriptions ⟨kind, id⟩ }

namespace Edit

/-- Lets a check listen to one kind after the other. -/
def subscribe (id : Nat) (kinds : List Kind) : Edit σ Unit := do
  let registry ← get
  match registry.checks[id]? with
  | none => throw (.unknownCheck id)
  | some check =>
      MonadExcept.ofExcept (validateKinds check.rule kinds)
      kinds.forM fun kind => modify fun registry => registry.listen id kind

/-- Appends a check, then lets it listen to its kinds. -/
def register (check : Check σ) : Edit σ Nat := do
  MonadExcept.ofExcept (validateKinds check.rule check.kinds)
  let registry ← get
  if (registry.find? check.rule).isSome then throw (.duplicateRule check.rule)
  else
    set { registry with checks := registry.checks.push check }
    subscribe registry.size check.kinds
    return registry.size

def call : RegistryCall σ → Edit σ Unit
  | .register check => do
      let _ ← register check
  | .subscribe id kinds => subscribe id kinds

end Edit

theorem edited_bind (registry : Registry σ) (first : Edit σ α) (second : α → Edit σ β) :
    registry.edited (first >>= second) =
      match registry.edited first with
      | (.ok answer, next) => next.edited (second answer)
      | (.error error, left) => (.error error, left) := by
  unfold edited
  rw [ExceptT.run_bind, StateT.run_bind]
  cases first.run.run registry with
  | mk answer next => cases answer <;> rfl

theorem edited_ofExcept (registry : Registry σ) (answer : Except Error α) :
    registry.edited (MonadExcept.ofExcept answer) = (answer, registry) := by
  cases answer <;> rfl

theorem edited_forM_listen (registry : Registry σ) (id : Nat) (kinds : List Kind) :
    registry.edited (kinds.forM fun kind => modify fun registry => registry.listen id kind) =
      (.ok (), { registry with subscriptions := listenTo registry.subscriptions id kinds }) := by
  induction kinds generalizing registry with
  | nil => rfl
  | cons kind rest ih =>
      exact ih (registry.listen id kind)

/-- The answer of a call and the registry after it, which is the old one if the call
was refused. -/
def settled (registry : Registry σ) : Except Error (α × Registry σ) → Except Error α × Registry σ
  | .ok (answer, next) => (.ok answer, next)
  | .error error => (.error error, registry)

theorem edited_subscribe (registry : Registry σ) (id : Nat) (kinds : List Kind) :
    registry.edited (Edit.subscribe id kinds) =
      registry.settled ((registry.subscribe id kinds).map fun next => ((), next)) := by
  unfold Edit.subscribe Registry.subscribe
  rw [edited_bind]
  change registry.edited _ = _
  cases registry.checks[id]? with
  | none => rfl
  | some check =>
      dsimp only
      rw [edited_bind, edited_ofExcept]
      cases validateKinds check.rule kinds with
      | error error => rfl
      | ok _ => exact registry.edited_forM_listen id kinds

/-- Letting an appended check listen to its kinds is never refused, so no registration
ends halfway. -/
theorem edited_register (registry : Registry σ) (check : Check σ) :
    registry.edited (Edit.register check) = registry.settled (registry.register check) := by
  unfold Edit.register Registry.register
  rw [edited_bind, edited_ofExcept]
  cases validated : validateKinds check.rule check.kinds with
  | error error => rfl
  | ok _ =>
      obtain ⟨someKind, known⟩ := (validateKinds_ok_iff ..).mp validated
      have appended := registry.subscribe_appended someKind known
      dsimp only
      rw [edited_bind]
      change registry.edited _ = _
      split
      · rfl
      · rw [edited_bind]
        -- from here on a refusal would leave the check behind without its kinds
        change edited { registry with checks := registry.checks.push check } _ = _
        rw [edited_bind, edited_subscribe, appended]
        rw [size] at appended
        rw [appended]
        rfl

theorem edited_call (registry : Registry σ) (call : RegistryCall σ) :
    registry.edited (Edit.call call) =
      registry.settled ((registry.call call).map fun next => ((), next)) := by
  cases call with
  | register check =>
      rw [Edit.call, edited_bind, edited_register, Registry.call]
      cases registry.register check <;> rfl
  | subscribe id kinds => exact registry.edited_subscribe id kinds

theorem edited_call_snd (registry : Registry σ) (call : RegistryCall σ) :
    (registry.edited (Edit.call call)).2 = registry.step call := by
  rw [edited_call, step]
  cases registry.call call <;> rfl

/-- Making all calls as edits, whatever they answer, passes over the refused ones. -/
theorem foldl_edited_call (calls : List (RegistryCall σ)) :
    calls.foldl (fun registry call => (registry.edited (Edit.call call)).2) empty =
      after calls := by
  simp only [edited_call_snd]
  rfl

end Registry

/-- A refused call names the first of its faults and changes nothing.  A registration
is refused if the check names no kind, else if it names the unknown kind, else if its
rule is taken; a subscription is refused if its number is not given out, else if it
names no kind, else if it names the unknown kind.  The calls may be made in place,
where everything done before an error stays: the registration appends the check first,
but its kinds are then never refused.  So a refused call leaves the registry as it
was, also over whole histories, and every check listens to all kinds that it
declares. -/
theorem refusals_are_exact_and_atomic {σ : Type} (calls : List (RegistryCall σ)) :
    (∀ check error, (Registry.after calls).register check = .error error ↔
      (check.kinds = [] ∧ error = .emptySubscription check.rule) ∨
      (check.kinds ≠ [] ∧ .unknown ∈ check.kinds ∧
        error = .unknownKindSubscription check.rule) ∨
      (check.kinds ≠ [] ∧ .unknown ∉ check.kinds ∧ check.rule ∈ (Registry.after calls).rules ∧
        error = .duplicateRule check.rule)) ∧
    (∀ id kinds error, (Registry.after calls).subscribe id kinds = .error error ↔
      ((Registry.after calls).size ≤ id ∧ error = .unknownCheck id) ∨
      ∃ check, (Registry.after calls).get? id = some check ∧
        ((kinds = [] ∧ error = .emptySubscription check.rule) ∨
          (kinds ≠ [] ∧ .unknown ∈ kinds ∧ error = .unknownKindSubscription check.rule))) ∧
    (∀ check, (Registry.after calls).edited (.register check) =
      (Registry.after calls).settled ((Registry.after calls).register check)) ∧
    (∀ id kinds, (Registry.after calls).edited (.subscribe id kinds) =
      (Registry.after calls).settled
        (((Registry.after calls).subscribe id kinds).map fun next => ((), next))) ∧
    (∀ call error left, (Registry.after calls).edited (.call call) = (.error error, left) →
      left = Registry.after calls) ∧
    calls.foldl (fun registry call => (registry.edited (.call call)).2) Registry.empty =
      Registry.after calls ∧
    (∀ check, check.kinds ≠ [] → .unknown ∉ check.kinds → ∃ next,
      Registry.edited
          { Registry.after calls with checks := (Registry.after calls).checks.push check }
          (.subscribe (Registry.after calls).size check.kinds) = (.ok (), next) ∧
        ∀ kind ∈ check.kinds, (Registry.after calls).size ∈ next.subscribers kind) ∧
    ∀ id check, (Registry.after calls).get? id = some check →
      ∀ kind ∈ check.kinds, id ∈ (Registry.after calls).subscribers kind := by
  refine ⟨Registry.register_error_iff _, Registry.subscribe_error_iff _,
    Registry.edited_register _, Registry.edited_subscribe _, ?_,
    Registry.foldl_edited_call calls, ?_, ?_⟩
  · intro call error left refused
    rw [Registry.edited_call] at refused
    cases made : (Registry.after calls).call call with
    | error fault =>
        rw [made] at refused
        exact (Prod.mk.inj refused).2.symm
    | ok next =>
        rw [made] at refused
        cases (Prod.mk.inj refused).1
  · intro check someKind known
    rw [Registry.edited_subscribe, Registry.subscribe_appended _ someKind known]
    refine ⟨_, rfl, ?_⟩
    intro kind declared
    exact Registry.mem_subscribers.mpr (Registry.mem_listenTo.mpr (.inr ⟨rfl, declared⟩))
  · intro id check found kind declared
    have listens := ((Registry.orderly_after calls).declared id check found).2 kind declared
    exact Registry.mem_subscribers.mpr listens

/-- A check that reports nothing. -/
def silent (rule : String) (kinds : List Kind) : Check Unit where
  rule := rule
  name := rule
  description := ""
  kinds := kinds
  visitNode := fun _ _ state => { state }

theorem silent_refused :
    (Registry.after [.register (silent "a" [.block])]).register (silent "a" []) =
        .error (.emptySubscription "a") ∧
      (Registry.after [.register (silent "a" [.block])]).register (silent "a" [.unknown]) =
        .error (.unknownKindSubscription "a") ∧
      (Registry.after [.register (silent "a" [.block])]).register (silent "a" [.block]) =
        .error (.duplicateRule "a") ∧
      (Registry.after [.register (silent "a" [.block])]).subscribe 1 [] =
        .error (.unknownCheck 1) ∧
      (Registry.after [.register (silent "a" [.block])]).subscribe 0 [.script, .unknown] =
        .error (.unknownKindSubscription "a") ∧
      ((Registry.after [.register (silent "a" [.block])]).edited
          (.call (.subscribe 0 [.script, .unknown]))).2 =
        Registry.after [.register (silent "a" [.block])] ∧
      0 ∈ (Registry.after [.register (silent "a" [.block])]).subscribers .block := by
  obtain ⟨registered, subscribed, -, -, unchanged, -, -, listens⟩ :=
    refusals_are_exact_and_atomic [.register (silent "a" [.block])]
  refine ⟨?_, ?_, ?_, ?_, ?_, ?_, ?_⟩
  · exact (registered _ _).mpr (.inl ⟨rfl, rfl⟩)
  · exact (registered _ _).mpr (.inr (.inl ⟨by decide, by decide, rfl⟩))
  · exact (registered _ _).mpr (.inr (.inr ⟨by decide, by decide, by decide +kernel, rfl⟩))
  · exact (subscribed _ _ _).mpr (.inl ⟨by decide +kernel, rfl⟩)
  · exact (subscribed _ _ _).mpr (.inr ⟨_, rfl, .inr ⟨by decide, by decide, rfl⟩⟩)
  · exact unchanged (.subscribe 0 [.script, .unknown]) (.unknownKindSubscription "a") _ rfl
  · exact listens 0 (silent "a" [.block]) rfl .block (by decide)

end TreeLint
