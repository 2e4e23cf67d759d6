import TreeLint.Severity

/-!
# Configuration

A configuration has an optional linter section, which switches the linter and
sets the severities of rules, and an optional files section with the patterns
that select files.  A section that is missing as a whole has defaults; a field
that is missing in a present section has none.
-/

namespace TreeLint

structure LinterConfig where
  enabled : Option Bool
  /-- Severities by rule, sorted by rule. -/
  rules : Option (List (String × Severity))
deriving DecidableEq, Repr

structure FilesConfig where
  included : Option (List String)
  excluded : Option (List String)
deriving DecidableEq, Repr

structure Config where
  linter : Option LinterConfig := none
  files : Option FilesConfig := none
deriving DecidableEq, Repr

/-- The linter section of a configuration that has none. -/
def LinterConfig.default : LinterConfig where
  enabled := some true
  rules := none

/-- The files section of a configuration that has none. -/
def FilesConfig.default : FilesConfig where
  included := some ["**/*.json"]
  excluded := some ["**/node_modules/**", "**/target/**"]

/-- Enters the severity of a rule into a sorted table; a later entry for the
same rule replaces an earlier one. -/
def setRule (rule : String) (severity : Severity) :
    List (String × Severity) → List (String × Severity)
  | [] => [(rule, severity)]
  | (other, otherSeverity) :: rest =>
    if rule < other then (rule, severity) :: (other, otherSeverity) :: rest
    else if rule = other then (rule, severity) :: rest
    else (other, otherSeverity) :: setRule rule severity rest

def ruleTable (entries : List (String × Severity)) : List (String × Severity) :=
  entries.foldl (fun table entry => setRule entry.1 entry.2 table) []

namespace Config

def linterConfig (config : Config) : LinterConfig :=
  config.linter.getD .default

def filesConfig (config : Config) : FilesConfig :=
  config.files.getD .default

/-- The linter runs unless it is switched off. -/
def linterEnabled (config : Config) : Bool :=
  (config.linter.bind LinterConfig.enabled).getD true

/-- The severity of a rule; a rule without an entry warns. -/
def severityOf (config : Config) (rule : String) : Severity :=
  match config.linter.bind LinterConfig.rules with
  | some rules => (rules.lookup rule).getD .warn
  | none => .warn

end Config

end TreeLint
