import TreeLint.Config.Basic

/-!
# Configuration from JSON

The document and its sections are records; unknown members are skipped.  In
array form the document may stop early, a section may not.
-/

namespace TreeLint

open Json

def LinterConfig.record : Record LinterConfig LinterConfig where
  name := "LinterConfiguration"
  fields := ["enabled", "rules"]
  required := 2
  empty := ⟨none, none⟩
  assign field value draft :=
    match field with
    | "enabled" =>
      (value.readOptional Value.readFlag).map fun enabled => { draft with enabled }
    | _ =>
      (value.readOptional (Value.readTable Severity.ofValue)).map fun entries =>
        { draft with rules := entries.map ruleTable }
  close draft := .ok draft

def FilesConfig.record : Record FilesConfig FilesConfig where
  name := "FilesConfiguration"
  fields := ["include", "exclude"]
  required := 2
  empty := ⟨none, none⟩
  assign field value draft :=
    match field with
    | "include" =>
      (value.readOptional (Value.readList Value.readText)).map fun patterns =>
        { draft with included := patterns }
    | _ =>
      (value.readOptional (Value.readList Value.readText)).map fun patterns =>
        { draft with excluded := patterns }
  close draft := .ok draft

namespace Config

def record : Record Config Config where
  name := "QuillConfig"
  fields := ["linter", "files"]
  required := 0
  empty := {}
  assign field value draft :=
    match field with
    | "linter" =>
      (value.readOptional LinterConfig.record.read).map fun linter => { draft with linter }
    | _ =>
      (value.readOptional FilesConfig.record.read).map fun files => { draft with files }
  close draft := .ok draft

def ofJson (text : String) : Except Fault Config :=
  readDocument record.read text

end Config

end TreeLint
