import Mathlib.Data.List.Forall2
import TreeLint.Command.Run
import TreeLint.Proofs.BuiltinRules
import TreeLint.Proofs.Discovery
import TreeLint.Proofs.Independence
import TreeLint.Proofs.TreeRoundTrip

/-!
# A lint run accounts for everything

Building the registry and counting the violations both ask the configuration for
the severity of a rule.  They ask under the same name, so a violation that would
not be counted is never reported.  A file that cannot be read, decoded or
analyzed has a report of its own without violations, and it counts as failed.
So the totals are complete, and the exit status follows from them.
-/

namespace TreeLint

/-! ## Violations and their severities -/

/-- Every violation of an analysis is filed under the rule of a registered check. -/
theorem Registry.rule_of_mem_analyze {σ : Type} {registry : Registry σ} {fresh : σ} {tree : Tree}
    {violations : List Violation} (analyzed : registry.analyze fresh tree = .ok violations)
    {violation : Violation} (member : violation ∈ violations) :
    violation.rule ∈ registry.rules := by
  have reported : violations = registry.reports fresh tree := by
    rw [analyze] at analyzed
    rw [reports]
    cases ran : registry.run fresh tree #[] with
    | ok walk =>
        rw [ran] at analyzed
        exact (Except.ok.inj analyzed).symm
    | error stopped =>
        rw [ran] at analyzed
        cases analyzed
  by_contra absent
  have none := ofRule_reports_of_not_mem absent fresh tree
  rw [← reported, ofRule, List.filter_eq_nil_iff] at none
  exact none violation member (by simp)

theorem Config.severityOf_ne_off {config : Config} {σ : Type} {registry : Registry σ}
    (built : config.registry σ = .ok registry) {rule : String} (present : rule ∈ registry.rules) :
    config.severityOf rule ≠ .off := by
  obtain ⟨builtEnabled, checks⟩ := config.registry_eq_after σ
  rw [builtEnabled] at built
  cases built
  rw [Registry.rules, checks] at present
  obtain ⟨check, enabled, rfl⟩ := List.mem_map.mp present
  rw [enabledChecks] at enabled
  split at enabled
  · simpa [Severity.enabled] using (List.mem_filter.mp enabled).2
  · cases enabled

namespace LintSummary

/-- Violations none of which is off are counted completely. -/
theorem countSeverity_total {config : Config} {violations : List Violation}
    (inForce : ∀ violation ∈ violations, config.severityOf violation.rule ≠ .off) :
    countSeverity config .error violations + countSeverity config .warn violations +
      countSeverity config .info violations = violations.length := by
  induction violations with
  | nil => rfl
  | cons violation rest ih =>
      obtain ⟨here, later⟩ := List.forall_mem_cons.mp inForce
      have counted := ih later
      simp only [countSeverity, List.countP_cons, List.length_cons] at counted ⊢
      cases severity : config.severityOf violation.rule with
      | off => exact absurd severity here
      | info | warn | error =>
          simp only [beq_self_eq_true, ↓reduceIte, reduceCtorEq, beq_iff_eq]
          omega

theorem countSeverity_pos_iff {config : Config} {severity : Severity}
    {violations : List Violation} :
    0 < countSeverity config severity violations ↔
      ∃ violation ∈ violations, config.severityOf violation.rule = severity := by
  simp [countSeverity, List.countP_pos_iff]

end LintSummary

/-! ## Single files -/

namespace FileSystem

/-- The reading, the decoding or the analysis of a file fails. -/
inductive Fails (system : FileSystem) (registry : Registry Unit) (path : String) : Prop
  | reading {fault : FileFault} (unreadable : system.readText path = .error fault)
  | decoding {text : String} {error : Error} (read : system.readText path = .ok text)
      (refused : Tree.ofJson text = .error error)
  | analysis {text : String} {tree : Tree} {error : Error}
      (read : system.readText path = .ok text) (decoded : Tree.ofJson text = .ok tree)
      (stopped : registry.analyze () tree = .error error)

/-- The report of a file holds what its analysis found, or nothing but a reason if the
file fails. -/
inductive Describes (system : FileSystem) (registry : Registry Unit) (path : String) :
    FileReport → Prop
  | passed {text : String} {tree : Tree} {violations : List Violation}
      (read : system.readText path = .ok text) (decoded : Tree.ofJson text = .ok tree)
      (analyzed : registry.analyze () tree = .ok violations) :
      Describes system registry path ⟨path, violations, none⟩
  | failed {reason : String} (fails : Fails system registry path) :
      Describes system registry path ⟨path, [], some reason⟩

variable (system : FileSystem) (registry : Registry Unit) (path : String)

theorem describes_lintFile :
    Describes system registry path (system.lintFile registry path).1 := by
  rw [lintFile, loadTree]
  cases read : system.readText path with
  | error fault => exact .failed (.reading read)
  | ok text =>
      dsimp only
      cases decoded : Tree.ofJson text with
      | error error => exact .failed (.decoding read decoded)
      | ok tree =>
          dsimp only
          cases analyzed : registry.analyze () tree with
          | error error => exact .failed (.analysis read decoded analyzed)
          | ok violations => exact .passed read decoded analyzed

theorem fails_iff :
    Fails system registry path ↔ (system.lintFile registry path).1.error.isSome = true := by
  have described := describes_lintFile system registry path
  constructor
  · intro fails
    generalize (system.lintFile registry path).1 = report at described
    cases described with
    | failed _ => rfl
    | passed read decoded analyzed =>
        cases fails with
        | reading unreadable => simp [read] at unreadable
        | decoding readAgain refused =>
            cases read.symm.trans readAgain
            simp [decoded] at refused
        | analysis readAgain decodedAgain stopped =>
            cases read.symm.trans readAgain
            cases decoded.symm.trans decodedAgain
            simp [analyzed] at stopped
  · generalize (system.lintFile registry path).1 = report at described
    cases described with
    | failed fails => exact fun _ => fails
    | passed _ _ _ => simp

instance : Decidable (Fails system registry path) :=
  decidable_of_iff _ (fails_iff system registry path).symm

/-- The report depends on nothing but the content of the file. -/
theorem lintFile_congr {system other : FileSystem} {path : String}
    (same : other.readText path = system.readText path) (registry : Registry Unit) :
    other.lintFile registry path = system.lintFile registry path := by
  rw [lintFile, loadTree, same, lintFile, loadTree]

/-! ## Whole runs -/

/-- The reports of a planned run. -/
def LintPlan.reports (system : FileSystem) (plan : LintPlan) : List FileReport :=
  plan.files.map fun path => (system.lintFile plan.registry path).1

/-- The reports and the summary of a run leave nothing out. -/
structure LintPlan.Accounts (system : FileSystem) (plan : LintPlan) (reports : List FileReport)
    (summary : LintSummary) : Prop where
  described : List.Forall₂ (Describes system plan.registry) plan.files reports
  inForce : ∀ report ∈ reports, ∀ violation ∈ report.violations,
    plan.config.severityOf violation.rule ≠ .off
  errors : summary.errors = (reports.flatMap FileReport.violations).countP
    fun violation => plan.config.severityOf violation.rule == .error
  warnings : summary.warnings = (reports.flatMap FileReport.violations).countP
    fun violation => plan.config.severityOf violation.rule == .warn
  info : summary.info = (reports.flatMap FileReport.violations).countP
    fun violation => plan.config.severityOf violation.rule == .info
  total : summary.errors + summary.warnings + summary.info =
    (reports.flatMap FileReport.violations).length
  checked : summary.filesChecked = plan.files.length
  failed : summary.filesFailed = plan.files.countP fun path => Fails system plan.registry path
  /-- Whatever becomes of the files that fail, and whatever files come in addition, the
  other files are reported in the same way and in the same order. -/
  undisturbed : ∀ (other : FileSystem) (files : List String),
    (plan.files.filter fun path => ¬ Fails system plan.registry path).Sublist files →
    (∀ path ∈ plan.files, ¬ Fails system plan.registry path →
      other.readText path = system.readText path) →
    (reports.filter fun report => report.error.isNone).Sublist
      (LintPlan.reports other { plan with files := files })

theorem LintPlan.filter_reports (system : FileSystem) (plan : LintPlan) :
    (plan.reports system).filter (fun report => report.error.isNone) =
      (plan.files.filter fun path => ¬ Fails system plan.registry path).map fun path =>
        (system.lintFile plan.registry path).1 := by
  rw [LintPlan.reports, List.filter_map]
  congr 1
  apply List.filter_congr
  intro path _
  rw [Bool.eq_iff_iff]
  simp [fails_iff]

theorem LintPlan.reports_undisturbed {system other : FileSystem} {plan : LintPlan}
    {files : List String}
    (kept : (plan.files.filter fun path => ¬ Fails system plan.registry path).Sublist files)
    (same : ∀ path ∈ plan.files, ¬ Fails system plan.registry path →
      other.readText path = system.readText path) :
    ((plan.reports system).filter fun report => report.error.isNone).Sublist
      (LintPlan.reports other { plan with files := files }) := by
  have alike : (plan.files.filter fun path => ¬ Fails system plan.registry path).map
        (fun path => (system.lintFile plan.registry path).1) =
      (plan.files.filter fun path => ¬ Fails system plan.registry path).map
        fun path => (other.lintFile plan.registry path).1 := by
    apply List.map_congr_left
    intro path member
    obtain ⟨planned, passes⟩ := List.mem_filter.mp member
    rw [lintFile_congr (same path planned (by simpa using passes))]
  rw [filter_reports, alike]
  exact kept.map _

theorem LintPlan.accounts {system : FileSystem} {plan : LintPlan}
    (built : plan.config.registry Unit = .ok plan.registry) :
    plan.Accounts system (plan.reports system)
      (LintSummary.ofReports plan.config (plan.reports system)) := by
  have inForce : ∀ report ∈ plan.reports system, ∀ violation ∈ report.violations,
      plan.config.severityOf violation.rule ≠ .off := by
    intro report isReport violation member
    obtain ⟨path, -, rfl⟩ := List.mem_map.mp isReport
    have described := describes_lintFile system plan.registry path
    generalize (system.lintFile plan.registry path).1 = report at described member
    cases described with
    | failed _ => cases member
    | passed _ _ analyzed =>
        exact Config.severityOf_ne_off built (Registry.rule_of_mem_analyze analyzed member)
  constructor
  case described =>
    rw [LintPlan.reports, List.forall₂_map_right_iff, List.forall₂_same]
    intro path _
    exact describes_lintFile system plan.registry path
  case inForce => exact inForce
  case errors | warnings | info => rfl
  case total =>
    apply LintSummary.countSeverity_total
    intro violation member
    obtain ⟨report, isReport, isViolation⟩ := List.mem_flatMap.mp member
    exact inForce report isReport violation isViolation
  case checked => simp [LintSummary.ofReports, LintPlan.reports]
  case failed =>
    simp only [LintSummary.ofReports, LintPlan.reports, List.countP_map]
    congr 1
    funext path
    simp [fails_iff]
  case undisturbed =>
    intro other files kept same
    exact reports_undisturbed kept same

theorem planLint_registry {system : FileSystem} {configPath : Option String}
    {paths included excluded : List String} {plan : LintPlan}
    (planned : system.planLint configPath paths included excluded = .ok plan) :
    plan.config.registry Unit = .ok plan.registry := by
  unfold planLint at planned
  split at planned
  · cases planned
  · dsimp only at planned
    split at planned
    · cases planned
    · rename_i built
      split at planned
      · cases planned
      · cases planned
        exact built

end FileSystem

namespace LintSummary

theorem fails_ofReports_iff (config : Config) (reports : List FileReport) :
    (ofReports config reports).fails = true ↔
      0 < (ofReports config reports).filesFailed ∨ ∃ report ∈ reports,
        ∃ violation ∈ report.violations, config.severityOf violation.rule = .error := by
  have errors : 0 < (ofReports config reports).errors ↔ ∃ report ∈ reports,
      ∃ violation ∈ report.violations, config.severityOf violation.rule = .error := by
    rw [ofReports, countSeverity_pos_iff]
    simp only [List.mem_flatMap]
    constructor
    · rintro ⟨violation, ⟨report, isReport, member⟩, severity⟩
      exact ⟨report, isReport, violation, member, severity⟩
    · rintro ⟨report, isReport, violation, member, severity⟩
      exact ⟨violation, ⟨report, isReport, member⟩, severity⟩
  rw [fails, Bool.or_eq_true, decide_eq_true_iff, decide_eq_true_iff, errors, or_comm]

end LintSummary

/-- A file that holds the exchange form of a tree is loaded as that tree. -/
theorem FileSystem.loadTree_toJson {system : FileSystem} {path : String} {place : List String}
    {raw : RawNode} {tree : Tree}
    (found : system.find path = .ok (place, .file (.ok raw.toJson.toUTF8)))
    (frozen : raw.toTree = .ok tree) : system.loadTree path = .ok tree := by
  have decoded : String.fromUTF8? raw.toJson.toUTF8 = some raw.toJson := by
    unfold String.fromUTF8?
    exact dif_pos raw.toJson.isValidUTF8
  have read : system.readText path = .ok raw.toJson := by
    rw [readText, found]
    dsimp only [Entry.readText, Entry.content]
    rw [decoded]
  rw [loadTree, read]
  dsimp only
  rw [Tree.ofJson, RawNode.ofJson_toJson]
  dsimp only
  rw [frozen]

/-- A block in which a jump is followed by a statement, and that by another one. -/
def jumpOver (slots : List (Option Term)) : Term :=
  .compound .block [some (.compound .statement
    [some (.compound .returnStatement [some (.token .returnKw "return" 1 0)])]),
    some (.compound .statement slots), some (.compound .statement [])]

/-- Three files.  The analysis of the second one ends at a jump without a keyword, after
it has reported the jump before that, and the third one cannot be read. -/
def troubledFiles : FileSystem where
  base := "/home"
  working := []
  files := [(["a"], (jumpOver []).raw.toJson.toUTF8),
    (["b"], (jumpOver [some (.compound .returnStatement [])]).raw.toJson.toUTF8)]
  directories := []
  unreadable := [(["c"], .permissionDenied)]

theorem troubledFiles.find_first : troubledFiles.find "a" =
    .ok (["home", "a"], .file (.ok (jumpOver []).raw.toJson.toUTF8)) := rfl

theorem troubledFiles.find_second : troubledFiles.find "b" = .ok (["home", "b"],
    .file (.ok (jumpOver [some (.compound .returnStatement [])]).raw.toJson.toUTF8)) := rfl

theorem troubledFiles.find_third : troubledFiles.find "/home/c" =
    .ok (["home", "c"], .file (.error .permissionDenied)) := rfl

def troubledPlan : FileSystem.LintPlan where
  config := {}
  registry := .after ((Config.enabledChecks {} Unit).map .register)
  files := ["/home/c", "a", "b"]

/-- The configuration without sections excludes none of the three files. -/
theorem discoverFiles_troubledFiles :
    troubledFiles.discoverFiles {} ["/home/c", "a", "b"] = .ok ["/home/c", "a", "b"] := by
  have includes : compilePatterns ((Config.filesConfig {}).included.getD []) =
      .ok [.anyDirectories :: .anySequence :: ".json".toList.map .char] := compilePatterns_json
  have excludes : compilePatterns ((Config.filesConfig {}).excluded.getD []) =
      .ok [.anyDirectories :: "node_modules/".toList.map .char ++ [.anyDirectories],
        .anyDirectories :: "target/".toList.map .char ++ [.anyDirectories]] := by
    decide +kernel
  have union : troubledFiles.filesForAll
      [.anyDirectories :: .anySequence :: ".json".toList.map .char]
      [.anyDirectories :: "node_modules/".toList.map .char ++ [.anyDirectories],
        .anyDirectories :: "target/".toList.map .char ++ [.anyDirectories]]
      ["/home/c", "a", "b"] = .ok ["/home/c", "a", "b"] := by
    decide +kernel
  have increasing : ["/home/c", "a", "b"].Pairwise fun first second =>
      Path.compare first second = .lt := by
    decide +kernel
  rw [FileSystem.discoverFiles_of_compiled includes excludes, union, Except.map,
    sortPaths_of_increasing increasing]

theorem planLint_troubledFiles :
    troubledFiles.planLint none ["/home/c", "a", "b"] [] [] = .ok troubledPlan := by
  have config : troubledFiles.loadConfig none
      (troubledFiles.configStart ["/home/c", "a", "b"]) = .ok {} := by
    decide +kernel
  have patterns : FileSystem.withPatterns {} [] [] = {} := rfl
  rw [FileSystem.planLint, config]
  dsimp only
  rw [patterns, (Config.registry_eq_after {} Unit).1]
  dsimp only
  rw [discoverFiles_troubledFiles]
  rfl

theorem reports_troubledFiles :
    troubledPlan.reports troubledFiles =
      [⟨"/home/c", [], some "failed to read '/home/c': Permission denied (os error 13)"⟩,
        ⟨"a", [⟨"correctness/code-following-jump", "Remove the code after this \"return\".",
          ["return"], 3, none⟩], none⟩,
        ⟨"b", [], some ("analysis of 'b' failed: Malformed tree: return_statement has no " ++
          "keyword token")⟩] := by
  obtain ⟨first, frozen, reported⟩ : ∃ tree, (jumpOver []).raw.toTree = .ok tree ∧
      troubledPlan.registry.analyze () tree = .ok [⟨"correctness/code-following-jump",
        "Remove the code after this \"return\".", ["return"], 3, none⟩] := by
    refine ⟨_, (RawNode.toTree_raw _).trans rfl, ?_⟩
    rw [Registry.analyze_eq]
    decide +kernel
  obtain ⟨second, frozenToo, stopped⟩ : ∃ tree,
      (jumpOver [some (.compound .returnStatement [])]).raw.toTree = .ok tree ∧
      troubledPlan.registry.analyze () tree =
        .error (.malformedTree (.noKeyword .returnStatement)) := by
    refine ⟨_, (RawNode.toTree_raw _).trans rfl, ?_⟩
    rw [Registry.analyze_eq]
    decide +kernel
  have loaded : troubledFiles.loadTree "a" = .ok first :=
    FileSystem.loadTree_toJson troubledFiles.find_first frozen
  have loadedToo : troubledFiles.loadTree "b" = .ok second :=
    FileSystem.loadTree_toJson troubledFiles.find_second frozenToo
  have unread : troubledFiles.loadTree "/home/c" =
      .error ("failed to read '" ++ "/home/c" ++ "': " ++ FileFault.permissionDenied.message) := by
    rw [FileSystem.loadTree, FileSystem.readText, troubledFiles.find_third]
    rfl
  have lines : troubledPlan.reports troubledFiles = ["/home/c", "a", "b"].map fun path =>
      (troubledFiles.lintFile troubledPlan.registry path).1 := rfl
  rw [lines, List.map_cons, List.map_cons, List.map_singleton, FileSystem.lintFile, unread,
    FileSystem.lintFile, loaded, FileSystem.lintFile, loadedToo]
  dsimp only
  rw [reported, stopped]
  decide +kernel

end TreeLint
