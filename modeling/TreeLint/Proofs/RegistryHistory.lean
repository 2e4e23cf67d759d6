import TreeLint.Proofs.RegistryRuns

/-!
# What a registry remembers of its history

Some calls of a history are refused and leave no trace.  The accepted ones say
everything about the registry that they lead to: the numbers and the checks are
those of the accepted registrations, in order, and a kind is listened to by the
checks of the accepted calls that name it, in the order of the first such call.
-/

namespace TreeLint

def RegistryCall.kinds {σ : Type} : RegistryCall σ → List Kind
  | .register check => check.kinds
  | .subscribe _ kinds => kinds

/-- An accepted call with the number of the check that it speaks for: the one
that a registration answers with, or the one that a subscription names. -/
structure AcceptedCall (σ : Type) where
  number : Nat
  call : RegistryCall σ

namespace Registry

variable {σ : Type}

/-- The number of the check that a call speaks for, if the call is accepted. -/
def answer? (registry : Registry σ) : RegistryCall σ → Option Nat
  | .register check => (registry.register check).toOption.map Prod.fst
  | .subscribe id kinds => (registry.subscribe id kinds).toOption.map fun _ => id

def acceptedFrom (registry : Registry σ) : List (RegistryCall σ) → List (AcceptedCall σ)
  | [] => []
  | call :: rest =>
      match registry.answer? call with
      | some number => ⟨number, call⟩ :: (registry.step call).acceptedFrom rest
      | none => (registry.step call).acceptedFrom rest

/-- The accepted calls of a history. -/
def accepted (calls : List (RegistryCall σ)) : List (AcceptedCall σ) :=
  empty.acceptedFrom calls

/-- The registrations among accepted calls, with the numbers given out. -/
def registrations (accepted : List (AcceptedCall σ)) : List (Nat × Check σ) :=
  accepted.filterMap fun entry =>
    match entry.call with
    | .register check => some (entry.number, check)
    | .subscribe _ _ => none

/-- The numbers of the accepted calls that name a kind, call by call. -/
def callersFor (kind : Kind) (accepted : List (AcceptedCall σ)) : List Nat :=
  (accepted.filter fun entry => kind ∈ entry.call.kinds).map AcceptedCall.number

theorem registrations_append (first second : List (AcceptedCall σ)) :
    registrations (first ++ second) = registrations first ++ registrations second :=
  List.filterMap_append

theorem callersFor_append (kind : Kind) (first second : List (AcceptedCall σ)) :
    callersFor kind (first ++ second) = callersFor kind first ++ callersFor kind second := by
  rw [callersFor, List.filter_append, List.map_append]
  rfl

/-! ## One call -/

theorem answer?_eq_none_iff (registry : Registry σ) (call : RegistryCall σ) :
    registry.answer? call = none ↔ ∃ error, registry.call call = .error error := by
  cases call with
  | register check =>
      rw [answer?, Registry.call]
      cases registry.register check <;> simp [Except.toOption, Except.map]
  | subscribe id kinds =>
      rw [answer?, Registry.call]
      cases registry.subscribe id kinds <;> simp [Except.toOption]

theorem step_of_refused {registry : Registry σ} {call : RegistryCall σ}
    (refused : registry.answer? call = none) : registry.step call = registry := by
  obtain ⟨error, failed⟩ := (registry.answer?_eq_none_iff call).mp refused
  rw [step, failed]

/-- Everything that an accepted call can do. -/
theorem answer?_eq_some {registry : Registry σ} {call : RegistryCall σ} {number : Nat}
    (answered : registry.answer? call = some number) :
    (∃ check, call = .register check ∧ number = registry.size ∧
      registry.step call =
        ⟨registry.checks.push check,
          listenTo registry.subscriptions registry.size check.kinds⟩) ∨
    (∃ kinds, call = .subscribe number kinds ∧
      registry.step call =
        { registry with subscriptions := listenTo registry.subscriptions number kinds }) := by
  cases call with
  | register check =>
      rw [answer?] at answered
      cases registered : registry.register check with
      | error error => simp [registered, Except.toOption] at answered
      | ok answer =>
          rw [registered] at answered
          cases answered
          obtain ⟨someKind, known, free, isSize, -⟩ := (register_ok_iff ..).mp registered
          exact .inl ⟨check, rfl, isSize, step_register someKind known free⟩
  | subscribe id kinds =>
      rw [answer?] at answered
      cases subscribed : registry.subscribe id kinds with
      | error error => simp [subscribed, Except.toOption] at answered
      | ok next =>
          rw [subscribed] at answered
          cases answered
          obtain ⟨inside, someKind, known, -⟩ := (subscribe_ok_iff ..).mp subscribed
          exact .inr ⟨kinds, rfl, step_subscribe inside someKind known⟩

/-! ## Subscribers in order -/

theorem subscribers_addSubscription (registry : Registry σ) (new : Subscription) (kind : Kind) :
    subscribers { registry with
        subscriptions := addSubscription registry.subscriptions new } kind =
      if new.kind = kind ∧ new.id ∉ registry.subscribers kind then
        registry.subscribers kind ++ [new.id]
      else registry.subscribers kind := by
  obtain ⟨heard, listener⟩ := new
  rw [addSubscription]
  by_cases present : (⟨heard, listener⟩ : Subscription) ∈ registry.subscriptions
  · rw [if_pos present, if_neg]
    rintro ⟨rfl, absent⟩
    exact absent (mem_subscribers.mpr present)
  · rw [if_neg present]
    by_cases same : heard = kind
    · subst same
      rw [if_pos ⟨rfl, mt mem_subscribers.mp present⟩]
      simp [subscribers]
    · rw [if_neg fun both => same both.1]
      simp [subscribers, same]

/-- Naming a kind in a call appends the check to the listeners of this kind
unless it is there already, however often the call names the kind. -/
theorem subscribers_listenTo (registry : Registry σ) (id : Nat) (kinds : List Kind)
    (kind : Kind) :
    subscribers { registry with
        subscriptions := listenTo registry.subscriptions id kinds } kind =
      if kind ∈ kinds ∧ id ∉ registry.subscribers kind then
        registry.subscribers kind ++ [id]
      else registry.subscribers kind := by
  induction kinds generalizing registry with
  | nil => simp [listenTo]
  | cons first rest ih =>
      have added := registry.subscribers_addSubscription ⟨first, id⟩ kind
      have later := ih { registry with
        subscriptions := addSubscription registry.subscriptions ⟨first, id⟩ }
      rw [added] at later
      rw [listenTo, List.foldl_cons]
      refine later.trans ?_
      by_cases isFirst : first = kind
      · subst isFirst
        by_cases present : id ∈ registry.subscribers first <;> simp [present]
      · have other : kind ≠ first := Ne.symm isFirst
        simp [isFirst, other]

theorem eraseDups_append_singleton (ids : List Nat) (id : Nat) :
    (ids ++ [id]).eraseDups = if id ∈ ids then ids.eraseDups else ids.eraseDups ++ [id] := by
  rw [List.eraseDups_append]
  split
  · rename_i present
    simp [List.removeAll, present]
  · rename_i absent
    simp [List.removeAll, absent, List.eraseDups_cons]

/-! ## Whole histories -/

/-- The accepted calls say what the registry holds. -/
structure RecordedBy (registry : Registry σ) (accepted : List (AcceptedCall σ)) : Prop where
  entries : registry.entries = registrations accepted
  subscribers : ∀ kind, registry.subscribers kind = (callersFor kind accepted).eraseDups

theorem recordedBy_empty : RecordedBy (empty : Registry σ) [] where
  entries := rfl
  subscribers _ := rfl

theorem entries_push (registry : Registry σ) (check : Check σ)
    (subscriptions : List Subscription) :
    entries ⟨registry.checks.push check, subscriptions⟩ =
      registry.entries ++ [(registry.size, check)] := by
  simp [entries, List.zipIdx_append, size]

/-- The subscribers after a call that lets a check listen to some kinds. -/
theorem RecordedBy.subscribers_listenTo {registry : Registry σ}
    {accepted : List (AcceptedCall σ)} (recorded : RecordedBy registry accepted) (number : Nat)
    (call : RegistryCall σ) (kind : Kind) :
    Registry.subscribers { registry with
        subscriptions := listenTo registry.subscriptions number call.kinds } kind =
      (callersFor kind (accepted ++ [⟨number, call⟩])).eraseDups := by
  rw [Registry.subscribers_listenTo, recorded.subscribers, callersFor_append]
  by_cases named : kind ∈ call.kinds
  · have callers : callersFor kind [AcceptedCall.mk number call] = [number] := by
      simp [callersFor, named]
    rw [callers, eraseDups_append_singleton]
    by_cases present : number ∈ callersFor kind accepted <;> simp [named, present]
  · simp [callersFor, named]

theorem RecordedBy.step {registry : Registry σ} {accepted : List (AcceptedCall σ)}
    (recorded : RecordedBy registry accepted) {call : RegistryCall σ} {number : Nat}
    (answered : registry.answer? call = some number) :
    RecordedBy (registry.step call) (accepted ++ [⟨number, call⟩]) := by
  obtain ⟨check, rfl, rfl, result⟩ | ⟨kinds, rfl, result⟩ := answer?_eq_some answered
  · rw [result]
    refine ⟨?_, recorded.subscribers_listenTo registry.size (.register check)⟩
    rw [entries_push, recorded.entries, registrations_append]
    rfl
  · rw [result]
    refine ⟨?_, recorded.subscribers_listenTo number (.subscribe number kinds)⟩
    rw [registrations_append]
    exact recorded.entries.trans (List.append_nil _).symm

theorem RecordedBy.run {registry : Registry σ} {earlier : List (AcceptedCall σ)}
    (recorded : RecordedBy registry earlier) (calls : List (RegistryCall σ)) :
    RecordedBy (calls.foldl Registry.step registry)
      (earlier ++ registry.acceptedFrom calls) := by
  induction calls generalizing registry earlier with
  | nil => simpa [acceptedFrom] using recorded
  | cons call rest ih =>
      rw [List.foldl_cons, acceptedFrom]
      cases answered : registry.answer? call with
      | none =>
          simp only [step_of_refused answered]
          exact ih recorded
      | some number =>
          have continued := ih (recorded.step answered)
          rwa [List.append_assoc, List.singleton_append] at continued

theorem recordedBy_after (calls : List (RegistryCall σ)) :
    RecordedBy (after calls) (accepted calls) :=
  recordedBy_empty.run calls

/-! ## Looking checks up -/

theorem Orderly.checksFor_fst {registry : Registry σ} (orderly : Orderly registry)
    (kind : Kind) : (registry.checksFor kind).map Prod.fst = registry.subscribers kind := by
  have inside : ∀ id ∈ registry.subscribers kind, id < registry.checks.size := by
    intro id listens
    exact orderly.registered _ (mem_subscribers.mp listens)
  have kept : ∀ id ∈ registry.subscribers kind,
      (registry.checks[id]?.map fun check => (id, check)).map Prod.fst = some id := by
    intro id listens
    simp [inside id listens]
  rw [checksFor, List.map_filterMap, List.filterMap_congr kept, List.filterMap_some]

theorem Orderly.isSubscribed_iff {registry : Registry σ} (orderly : Orderly registry)
    (kind : Kind) : registry.isSubscribed kind = true ↔ registry.checksFor kind ≠ [] := by
  rw [isSubscribed, ← orderly.checksFor_fst kind]
  simp

theorem Orderly.find?_eq_some_iff {registry : Registry σ} (orderly : Orderly registry)
    (rule : String) (id : Nat) (check : Check σ) :
    registry.find? rule = some (id, check) ↔
      (id, check) ∈ registry.entries ∧ check.rule = rule := by
  constructor
  · intro found
    exact ⟨List.mem_of_find?_eq_some found, by simpa using List.find?_some found⟩
  · rintro ⟨member, rfl⟩
    have present : (registry.find? check.rule).isSome := by
      rw [find?, List.find?_isSome]
      exact ⟨_, member, by simp⟩
    obtain ⟨⟨other, otherCheck⟩, found⟩ := Option.isSome_iff_exists.mp present
    have otherMember := List.mem_of_find?_eq_some found
    have sameRule : otherCheck.rule = check.rule := by simpa using List.find?_some found
    -- rules are distinct, so the search cannot have ended at another check
    obtain rfl := (orderly.rule_eq_iff (mem_entries.mp member)
      (mem_entries.mp otherMember)).mp sameRule
    have sameCheck := (mem_entries.mp otherMember).symm.trans (mem_entries.mp member)
    rw [found, Option.some.inj sameCheck]

theorem entries_fst (registry : Registry σ) :
    registry.entries.map Prod.fst = List.range registry.size := by
  rw [entries, List.map_map, List.range_eq_range']
  exact List.zipIdx_map_snd 0 registry.checks.toList

end Registry

/-- After any history the registry holds exactly what the accepted calls say.
The numbers count the accepted registrations in order, and their rules are
distinct.  The checks that listen to a kind are those of the accepted calls that
name it, each once, in the order of the first such call; a kind counts as
subscribed if there are any.  Everyone who listens is registered, nobody listens
to the unknown kind, and a check is found under the rule it was registered with
and under no other. -/
theorem registry_holds_its_history {σ : Type} (calls : List (RegistryCall σ)) :
    (Registry.after calls).entries = Registry.registrations (Registry.accepted calls) ∧
    (Registry.registrations (Registry.accepted calls)).map Prod.fst =
      List.range (Registry.after calls).size ∧
    (Registry.after calls).rules.Nodup ∧
    (∀ kind,
      ((Registry.after calls).checksFor kind).map Prod.fst =
          (Registry.callersFor kind (Registry.accepted calls)).eraseDups ∧
        (((Registry.after calls).checksFor kind).map Prod.fst).Nodup ∧
        (∀ entry ∈ (Registry.after calls).checksFor kind,
          entry ∈ (Registry.after calls).entries ∧ entry.1 < (Registry.after calls).size) ∧
        ((Registry.after calls).isSubscribed kind = true ↔
          (Registry.after calls).checksFor kind ≠ [])) ∧
    (Registry.after calls).isSubscribed .unknown = false ∧
    ∀ rule id check, (Registry.after calls).find? rule = some (id, check) ↔
      (id, check) ∈ Registry.registrations (Registry.accepted calls) ∧ check.rule = rule := by
  have orderly := Registry.orderly_after calls
  have recorded := Registry.recordedBy_after calls
  refine ⟨recorded.entries, ?_, orderly.rulesNodup, ?_, ?_, ?_⟩
  · rw [← recorded.entries, Registry.entries_fst]
  · intro kind
    refine ⟨?_, orderly.checksFor_nodup kind, ?_, orderly.isSubscribed_iff kind⟩
    · rw [orderly.checksFor_fst, recorded.subscribers]
    · rintro ⟨id, check⟩ listens
      obtain ⟨subscribed, found⟩ := Registry.mem_checksFor.mp listens
      exact ⟨Registry.mem_entries.mpr found, orderly.registered _ subscribed⟩
  · rw [Bool.eq_false_iff, ne_eq, orderly.isSubscribed_iff, not_not,
      List.eq_nil_iff_forall_not_mem]
    rintro ⟨id, check⟩ listens
    exact orderly.known _ (Registry.mem_checksFor.mp listens).1 rfl
  · intro rule id check
    rw [orderly.find?_eq_some_iff, recorded.entries]

end TreeLint
