import TreeLint.Command.Arguments
import TreeLint.Command.Discover
import TreeLint.Command.Report
import TreeLint.Tree.Decode
import TreeLint.Tree.Render
import TreeLint.Version

/-!
# Running commands

A run takes the file system, the arguments and the wish for colours, and yields
the text to print, the log and the exit status.  Failures of single files are
logged as warnings and leave the other files alone; any other failure ends the
run without output.
-/

namespace TreeLint

inductive LogLevel where
  | warning
  | error
deriving DecidableEq, Repr

def LogLevel.name : LogLevel → String
  | .warning => "WARN"
  | .error => "ERROR"

structure LogEntry where
  level : LogLevel
  text : String
deriving DecidableEq, Repr

/-- A character in a line of the log.  Controls that a terminal acts upon are
written by their number. -/
def LogEntry.displayChar (c : Char) : String :=
  if c == '\x07' || c == '\x08' || c == '\x0c' || c == '\x1b' || c == '\x7f' then
    "\\x" ++ (if c.toNat < 0x10 then "0" else "") ++ Text.hexadecimal c.toNat
  else if 0x80 ≤ c.toNat && c.toNat ≤ 0x9f then
    "\\u\x7b" ++ Text.hexadecimal c.toNat ++ "\x7d"
  else c.toString

def LogEntry.display (entry : LogEntry) : String :=
  entry.level.name ++ " " ++ String.join (entry.text.toList.map displayChar)

structure RunResult where
  exit : Nat
  output : String
  log : List LogEntry := []
deriving DecidableEq, Repr

/-- An error followed by what it came from, where that is a separate cause. -/
def Error.chain : Error → String
  | .file path fault => (Error.file path fault).message ++ ": " ++ fault.message
  | error => error.message

def RunResult.failed (reason : String) : RunResult where
  exit := 1
  output := ""
  log := [⟨.error, "quill failed: " ++ reason⟩]

namespace FileSystem

/-- Loads a tree, or says why it cannot be loaded. -/
def loadTree (system : FileSystem) (path : String) : Except String Tree :=
  match system.readText path with
  | .error fault => .error ("failed to read '" ++ path ++ "': " ++ fault.message)
  | .ok text =>
    match Tree.ofJson text with
    | .error error =>
      .error ("failed to load syntax tree from '" ++ path ++ "': " ++ error.message)
    | .ok tree => .ok tree

def lintFile (system : FileSystem) (registry : Registry Unit) (path : String) :
    FileReport × List LogEntry :=
  match system.loadTree path with
  | .error reason => (⟨path, [], some reason⟩, [⟨.warning, reason⟩])
  | .ok tree =>
    match registry.analyze () tree with
    | .ok violations => (⟨path, violations, none⟩, [])
    | .error error =>
      (⟨path, [], some ("analysis of '" ++ path ++ "' failed: " ++ error.message)⟩,
        [⟨if error.recoverable then .warning else .error,
          "Analysis of '" ++ path ++ "' failed: " ++ error.message⟩])

/-- Where the search for a configuration starts: beside the first path if it is a
file, and otherwise at the first path. -/
def configStart (system : FileSystem) : List String → String
  | [] => "."
  | first :: _ => if system.isFile first then Path.directory first else first

/-- The configuration with the patterns of the command line, which replace the
configured ones. -/
def withPatterns (config : Config) (included excluded : List String) : Config :=
  let config :=
    if included.isEmpty then config
    else { config with files := some { config.filesConfig with included := some included } }
  if excluded.isEmpty then config
  else { config with files := some { config.filesConfig with excluded := some excluded } }

/-- What a lint run is about: its configuration, its checks and its files. -/
structure LintPlan where
  config : Config
  registry : Registry Unit
  files : List String

/-- Prepares a lint run. -/
def planLint (system : FileSystem) (configPath : Option String)
    (paths included excluded : List String) : Except String LintPlan :=
  match system.loadConfig configPath (system.configStart paths) with
  | .error error => .error error.chain
  | .ok config =>
    let config := withPatterns config included excluded
    match config.registry Unit with
    | .error error => .error error.chain
    | .ok registry =>
      match system.discoverFiles config paths with
      | .error error => .error error.message
      | .ok files => .ok ⟨config, registry, files⟩

def runLint (system : FileSystem) (colors : Bool) (configPath : Option String)
    (paths : List String) (format : ReportFormat) (included excluded : List String) :
    RunResult :=
  let paths := if paths.isEmpty then ["."] else paths
  match system.planLint configPath paths included excluded with
  | .error reason => .failed reason
  | .ok plan =>
    let results := plan.files.map (system.lintFile plan.registry)
    let reports := results.map Prod.fst
    let summary := LintSummary.ofReports plan.config reports
    { exit := if summary.fails then 1 else 0
      output :=
        match format with
        | .human => humanReport colors plan.config reports
        | .json => jsonReport plan.config reports
      log := results.flatMap Prod.snd }

def ruleLines (config : Config) (detailed : Bool) (check : Check Unit) : List String :=
  let severity := (config.severityOf check.rule).name
  if detailed then
    ["", check.rule, "  Name: " ++ check.name, "  Description: " ++ check.description,
      "  Subscribes to: " ++ String.intercalate ", " (check.kinds.map Kind.name),
      "  Severity: " ++ severity]
  else ["  " ++ check.rule ++ " - " ++ check.name ++ " [" ++ severity ++ "]"]

def runRules (system : FileSystem) (configPath : Option String) (detailed : Bool) :
    RunResult :=
  match system.loadConfig configPath "." with
  | .error error => .failed error.chain
  | .ok config =>
    let checks := builtinChecks Unit
    { exit := 0
      output := unlines (["Available Rules:", "================"] ++
        checks.flatMap (ruleLines config detailed) ++
        ["", "Total: " ++ toString checks.length ++ " rules"]) }

/-- Renders a tree, or all its nodes of a kind. -/
def runRender (system : FileSystem) (file : String) (kind : Option String) : RunResult :=
  match system.loadTree file with
  | .error reason => .failed reason
  | .ok tree =>
    match kind with
    | none => { exit := 0, output := unlines [tree.render tree.root] }
    | some name =>
      match Kind.ofName? name with
      | none => .failed (Kind.unknownNameMessage name)
      | some kind =>
        let nodes := (tree.descendants tree.root).filter fun id => tree.kind id == kind
        { exit := 0, output := unlines (nodes.map tree.render) }

end FileSystem

def versionText : String := "quill " ++ engineVersion ++ "\n"

def helpText : String :=
  unlines
    ["Quill: run syntax-tree checks over serialized source trees",
      "",
      "Usage: quill [OPTIONS] [COMMAND]",
      "",
      "Commands:",
      "  lint    Lint serialized syntax trees",
      "  rules   List available rules",
      "  render  Print the normalized one-line text of a serialized tree",
      "  help    Print this message or the help of the given subcommand(s)",
      "",
      "Options:",
      "  -c, --config <CONFIG>    Path to configuration file (.quillrc.json/.quillrc.toml)",
      "  -v, --verbose...         Verbose output (can be used multiple times for increased verbosity)",
      "      --no-color           Disable colored output",
      "  -j, --threads <THREADS>  Number of threads (default: number of CPU cores)",
      "  -h, --help               Print help (see more with '--help')",
      "  -V, --version            Print version"]

def runProgram (system : FileSystem) (noColorWanted : Bool) (arguments : List String) :
    RunResult :=
  match Invocation.ofArguments arguments with
  | .error .usage => { exit := 2, output := "" }
  | .error .version => { exit := 0, output := versionText }
  | .error .help => { exit := 0, output := helpText }
  | .ok invocation =>
    let colors := !invocation.noColor && !noColorWanted
    match invocation.command with
    | none => { exit := 0, output := helpText }
    | some (.lint paths format included excluded) =>
      system.runLint colors invocation.config paths format included excluded
    | some (.rules detailed) => system.runRules invocation.config detailed
    | some (.render file kind) => system.runRender file kind

end TreeLint
