import TreeLint.Check

/-!
# The dispatch registry

A registry numbers the checks in the order of registration and keeps a list of
who listens to what, in the order of subscription.  Kinds are flat: a check that
listens to one kind is never offered another.  A refused call leaves the registry
as it was.
-/

namespace TreeLint

/-- The check with this number listens to this kind. -/
structure Subscription where
  kind : Kind
  id : Nat
deriving DecidableEq, Repr

structure Registry (σ : Type) where
  checks : Array (Check σ)
  /-- Who listens to what, oldest first. -/
  subscriptions : List Subscription

namespace Registry

variable {σ : Type}

def empty : Registry σ where
  checks := #[]
  subscriptions := []

def size (registry : Registry σ) : Nat :=
  registry.checks.size

/-- The checks with their numbers, in the order of registration. -/
def entries (registry : Registry σ) : List (Nat × Check σ) :=
  registry.checks.toList.zipIdx.map fun (check, id) => (id, check)

def get? (registry : Registry σ) (id : Nat) : Option (Check σ) :=
  registry.checks[id]?

/-- The check of a rule with its number. -/
def find? (registry : Registry σ) (rule : String) : Option (Nat × Check σ) :=
  registry.entries.find? fun entry => entry.2.rule == rule

def rules (registry : Registry σ) : List String :=
  registry.checks.toList.map Check.rule

/-- The numbers of the checks that listen to a kind, in the order of
subscription. -/
def subscribers (registry : Registry σ) (kind : Kind) : List Nat :=
  registry.subscriptions.filterMap fun subscription =>
    if subscription.kind = kind then some subscription.id else none

def checksFor (registry : Registry σ) (kind : Kind) : List (Nat × Check σ) :=
  (registry.subscribers kind).filterMap fun id =>
    (registry.checks[id]?).map fun check => (id, check)

def isSubscribed (registry : Registry σ) (kind : Kind) : Bool :=
  !(registry.subscribers kind).isEmpty

/-- A subscription names at least one kind, and never the unknown one, which
stands for every name outside the vocabulary. -/
def validateKinds (rule : String) (kinds : List Kind) : Except Error Unit :=
  if kinds.isEmpty then .error (.emptySubscription rule)
  else if .unknown ∈ kinds then .error (.unknownKindSubscription rule)
  else .ok ()

/-- Appends a subscription; a check listens to a kind at most once. -/
def addSubscription (subscriptions : List Subscription) (subscription : Subscription) :
    List Subscription :=
  if subscription ∈ subscriptions then subscriptions
  else subscriptions ++ [subscription]

/-- Lets a registered check listen to more kinds. -/
def subscribe (registry : Registry σ) (id : Nat) (kinds : List Kind) :
    Except Error (Registry σ) :=
  match registry.checks[id]? with
  | none => .error (.unknownCheck id)
  | some check =>
    match validateKinds check.rule kinds with
    | .error error => .error error
    | .ok () =>
      .ok { registry with
        subscriptions := kinds.foldl
          (fun subscriptions kind => addSubscription subscriptions ⟨kind, id⟩)
          registry.subscriptions }

/-- Adds a check and lets it listen to all its kinds; answers with its number. -/
def register (registry : Registry σ) (check : Check σ) :
    Except Error (Nat × Registry σ) :=
  match validateKinds check.rule check.kinds with
  | .error error => .error error
  | .ok () =>
    if (registry.find? check.rule).isSome then .error (.duplicateRule check.rule)
    else
      let id := registry.checks.size
      match subscribe { registry with checks := registry.checks.push check } id check.kinds with
      | .error error => .error error
      | .ok registry => .ok (id, registry)

/-- The kinds that some check listens to, in declaration order. -/
def subscribedKinds (registry : Registry σ) : List Kind :=
  Kind.all.filter registry.isSubscribed

/-- The registry in diagnostic text. -/
def describe (registry : Registry σ) : String :=
  "CheckRegistry \x7b rules: [" ++
    String.intercalate ", " (registry.rules.map Text.quote) ++
    "], kinds: " ++ toString registry.subscribedKinds.length ++ " \x7d"

end Registry

end TreeLint
