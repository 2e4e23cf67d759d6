import TreeLint.Proofs.RegistryRuns
import TreeLint.Rule.Builtin

/-!
# The registry of a configuration

Building the registry of a configuration never fails: the built-in checks have
distinct rules and listen to known kinds.  The registry is the one after the
history that registers the enabled checks in order.
-/

namespace TreeLint

namespace Registry

variable {σ : Type}

/-- Checks with distinct rules that listen to known kinds are all registered. -/
theorem registerAll_eq (registry : Registry σ) {checks : List (Check σ)}
    (valid : ∀ check ∈ checks, check.kinds ≠ [] ∧ .unknown ∉ check.kinds)
    (distinct : (registry.rules ++ checks.map Check.rule).Nodup) :
    registry.registerAll checks = .ok ((checks.map .register).foldl step registry) ∧
      ((checks.map .register).foldl step registry).checks.toList =
        registry.checks.toList ++ checks := by
  induction checks generalizing registry with
  | nil => simp [registerAll]
  | cons check rest ih =>
      obtain ⟨⟨someKind, known⟩, validRest⟩ := List.forall_mem_cons.mp valid
      have free : check.rule ∉ registry.rules := by
        intro taken
        exact (List.nodup_append.mp distinct).2.2 _ taken _ List.mem_cons_self rfl
      have registered := (register_ok_iff registry _ check _).mpr
        ⟨someKind, known, free, rfl, rfl⟩
      have stepped := step_register someKind known free
      have rules : (registry.step (.register check)).rules = registry.rules ++ [check.rule] := by
        rw [stepped]
        simp [Registry.rules]
      have distinctRest : ((registry.step (.register check)).rules ++
          rest.map Check.rule).Nodup := by
        rw [rules, List.append_assoc]
        exact distinct
      have later := ih (registry.step (.register check)) validRest distinctRest
      rw [registerAll, registered]
      simp only [← stepped, List.map_cons, List.foldl_cons]
      refine ⟨later.1, later.2.trans ?_⟩
      rw [stepped]
      simp

end Registry

theorem builtinChecks_valid (σ : Type) :
    ∀ check ∈ builtinChecks σ, check.kinds ≠ [] ∧ .unknown ∉ check.kinds := by
  simp [builtinChecks, codeFollowingJump, CodeFollowingJump.jumpKinds]

theorem builtinChecks_distinct (σ : Type) : ((builtinChecks σ).map Check.rule).Nodup := by
  simp [builtinChecks]

namespace Config

/-- The built-in checks that a configuration lets run. -/
def enabledChecks (config : Config) (σ : Type) : List (Check σ) :=
  if config.linterEnabled then
    (builtinChecks σ).filter fun check => (config.severityOf check.rule).enabled
  else []

theorem enabledChecks_sublist (config : Config) (σ : Type) :
    (config.enabledChecks σ).Sublist (builtinChecks σ) := by
  rw [enabledChecks]
  split
  · exact List.filter_sublist
  · exact List.nil_sublist _

theorem registry_eq_after (config : Config) (σ : Type) :
    config.registry σ =
        .ok (Registry.after ((config.enabledChecks σ).map RegistryCall.register)) ∧
      (Registry.after ((config.enabledChecks σ).map RegistryCall.register)).checks.toList =
        config.enabledChecks σ := by
  have enabled := config.enabledChecks_sublist σ
  obtain ⟨registered, checks⟩ := Registry.empty.registerAll_eq
    (fun check member => builtinChecks_valid σ check (enabled.mem member))
    ((builtinChecks_distinct σ).sublist (enabled.map Check.rule))
  have built : config.registry σ = Registry.empty.registerAll (config.enabledChecks σ) := by
    rw [Config.registry, enabledChecks]
    split <;> rfl
  exact ⟨built.trans registered, checks⟩

end Config

end TreeLint
