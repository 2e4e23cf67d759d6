import TreeLint.Rule.CodeFollowingJump
import TreeLint.Config.Basic
import TreeLint.Walk

/-!
# The built-in rules

The registry of a configuration holds the built-in checks whose rule is not
switched off, and none at all if the linter is disabled.
-/

namespace TreeLint

/-- All checks that come with the linter. -/
def builtinChecks (σ : Type) : List (Check σ) :=
  [codeFollowingJump σ]

/-- Registers checks one after the other. -/
def Registry.registerAll {σ : Type} (registry : Registry σ) :
    List (Check σ) → Except Error (Registry σ)
  | [] => .ok registry
  | check :: rest =>
    match registry.register check with
    | .ok (_, registry) => registry.registerAll rest
    | .error error => .error error

/-- The checks that a configuration lets run. -/
def Config.registry (config : Config) (σ : Type) : Except Error (Registry σ) :=
  if config.linterEnabled then
    Registry.empty.registerAll
      ((builtinChecks σ).filter fun check => (config.severityOf check.rule).enabled)
  else .ok .empty

end TreeLint
