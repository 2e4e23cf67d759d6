import TreeLint.Rule.Builtin
import TreeLint.Json.Writer

/-!
# Reports of a lint run

Each file has a report with its violations, or with the reason why it has none.
A summary counts files, failures and the violations by severity.  Both are
written for people, with or without colours, or as a JSON document.
-/

namespace TreeLint

open Json

structure FileReport where
  path : String
  violations : List Violation
  /-- Why the file could not be loaded or analyzed. -/
  error : Option String
deriving DecidableEq, Repr

structure LintSummary where
  filesChecked : Nat
  filesFailed : Nat
  errors : Nat
  warnings : Nat
  info : Nat
deriving DecidableEq, Repr

namespace LintSummary

def countSeverity (config : Config) (severity : Severity) (violations : List Violation) :
    Nat :=
  violations.countP fun violation => config.severityOf violation.rule == severity

def ofReports (config : Config) (reports : List FileReport) : LintSummary :=
  let violations := reports.flatMap FileReport.violations
  { filesChecked := reports.length
    filesFailed := reports.countP fun report => report.error.isSome
    errors := countSeverity config .error violations
    warnings := countSeverity config .warn violations
    info := countSeverity config .info violations }

/-- The number of violations that count. -/
def total (summary : LintSummary) : Nat :=
  summary.errors + summary.warnings + summary.info

/-- A run fails if there is an error or a file that could not be checked. -/
def fails (summary : LintSummary) : Bool :=
  0 < summary.errors || 0 < summary.filesFailed

end LintSummary

/-- The ways in which parts of a report stand out. -/
inductive Style where
  | failure
  | warning
  | information
  | success
  | heading
  | faint
deriving DecidableEq, Repr

def Style.code : Style → String
  | .failure => "1;31"
  | .warning => "33"
  | .information => "34"
  | .success => "32"
  | .heading => "1"
  | .faint => "2"

/-- Text in a style, if colours are wanted. -/
def paint (colors : Bool) (style : Style) (text : String) : String :=
  if colors then "\x1b[" ++ style.code ++ "m" ++ text ++ "\x1b[0m" else text

def Severity.style : Severity → Style
  | .error => .failure
  | .warn => .warning
  | _ => .information

def violationLine (colors : Bool) (config : Config) (path : String)
    (violation : Violation) : String :=
  let location :=
    match violation.position with
    | some position => path ++ ":" ++ position.display
    | none => path
  let severity := config.severityOf violation.rule
  location ++ ": " ++ paint colors severity.style severity.name ++ " " ++ violation.message ++
    " " ++ paint colors .faint ("[" ++ violation.rule ++ "]")

def reportLines (colors : Bool) (config : Config) (report : FileReport) : List String :=
  let failure :=
    match report.error with
    | some error => [report.path ++ ": " ++ paint colors .failure "failed:" ++ " " ++ error]
    | none => []
  failure ++ report.violations.map (violationLine colors config report.path)

/-- A line of the summary for a number, if it is not zero. -/
def countLine (label : String) (colors : Bool) (style : Style) (count : Nat) : List String :=
  if 0 < count then [label ++ paint colors style (toString count)] else []

def summaryLines (colors : Bool) (summary : LintSummary) : List String :=
  ["", paint colors .heading "Summary:",
    "  Files checked: " ++ toString summary.filesChecked] ++
    countLine "  Files failed: " colors .failure summary.filesFailed ++
    (if 0 < summary.total then
      ["  Issues found:"] ++ countLine "    Errors: " colors .failure summary.errors ++
        countLine "    Warnings: " colors .warning summary.warnings ++
        countLine "    Info: " colors .information summary.info
    else ["  " ++ paint colors .success "No issues found"])

/-- Lines as text, each with its end. -/
def unlines (lines : List String) : String :=
  String.join (lines.map fun line => line ++ "\n")

def humanReport (colors : Bool) (config : Config) (reports : List FileReport) : String :=
  unlines (reports.flatMap (reportLines colors config) ++
    summaryLines colors (LintSummary.ofReports config reports))

/-- A number that may be missing. -/
def wordOutput : Option UInt32 → Output
  | some value => .number value.toNat
  | none => .null

def violationOutput (config : Config) (violation : Violation) : Output :=
  .object
    [("ruleKey", .text violation.rule),
      ("severity", .text (config.severityOf violation.rule).name),
      ("message", .text violation.message),
      ("parameters", .array (violation.parameters.map .text)),
      ("line", wordOutput (violation.position.map Position.line)),
      ("column", wordOutput (violation.position.map Position.column))]

def reportOutput (config : Config) (report : FileReport) : Output :=
  .object
    [("path", .text report.path),
      ("violations", .array (report.violations.map (violationOutput config))),
      ("error", match report.error with
        | some error => .text error
        | none => .null)]

def jsonReport (config : Config) (reports : List FileReport) : String :=
  let summary := LintSummary.ofReports config reports
  Output.pretty 0 (.object
    [("filesChecked", .number summary.filesChecked),
      ("files", .array (reports.map (reportOutput config))),
      ("summary", .object
        [("errors", .number summary.errors), ("warnings", .number summary.warnings),
          ("info", .number summary.info), ("total", .number summary.total),
          ("filesFailed", .number summary.filesFailed)])]) ++ "\n"

end TreeLint
