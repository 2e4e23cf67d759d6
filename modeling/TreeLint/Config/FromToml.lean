import TreeLint.Config.Basic
import TreeLint.Toml.Document

/-!
# Configuration from TOML

The sections are tables; as in JSON, a section may also be an array that lists
its fields, of which further elements are not looked at.  The values of unknown
keys are passed over, but they have to be readable.  A date has no key that a
section knows.
-/

namespace TreeLint

open Toml

namespace Toml.Item

def text? : Item → Option String
  | .text content => some content
  | _ => none

def flag? : Item → Option Bool
  | .flag value => some value
  | _ => none

def items? : Item → Option (List Item)
  | .array items => some items
  | .tables items => some items
  | _ => none

def entries? : Item → Option (List (String × Item))
  | .table _ entries => some entries
  | _ => none

def texts? (item : Item) : Option (List String) := do
  (← item.items?).mapM text?

/-- The value of a key that may be missing; none if it is there and not of the
right sort. -/
def field? {α : Type} (entries : List (String × Item)) (key : String)
    (read : Item → Option α) : Option (Option α) :=
  match entries.lookup key with
  | none => some none
  | some item => (read item).map some

/-- Whether the values of all keys but the known ones can be read. -/
def othersReadable (known : List String) (entries : List (String × Item)) : Bool :=
  entries.all fun (key, item) => key ∈ known || item.readable

/-- Whether an item has no content, as the item beside a severity in a table
must. -/
def isEmpty : Item → Bool
  | .array items => items.isEmpty
  | .tables items => items.isEmpty
  | .table _ entries => entries.isEmpty
  | _ => false

end Toml.Item

/-- A severity is the text of its name, or a table of that one key without
content. -/
def Severity.ofToml? : Item → Option Severity
  | .text name => (Severity.ofName name).toOption
  | .table _ [(name, content)] =>
    if content.isEmpty then (Severity.ofName name).toOption else none
  | _ => none

def rulesOfToml? (item : Item) : Option (List (String × Severity)) := do
  let entries ← (← item.entries?).mapM fun (rule, item) =>
    (Severity.ofToml? item).map fun severity => (rule, severity)
  return ruleTable entries

def LinterConfig.ofToml? : Item → Option LinterConfig
  | .table _ entries => do
    let enabled ← Item.field? entries "enabled" Item.flag?
    let rules ← Item.field? entries "rules" rulesOfToml?
    if Item.othersReadable ["enabled", "rules"] entries then return ⟨enabled, rules⟩ else none
  | .date => some ⟨none, none⟩
  | item => do
    let first :: second :: _ ← item.items? | none
    return ⟨some (← first.flag?), some (← rulesOfToml? second)⟩

def FilesConfig.ofToml? : Item → Option FilesConfig
  | .table _ entries => do
    let included ← Item.field? entries "include" Item.texts?
    let excluded ← Item.field? entries "exclude" Item.texts?
    if Item.othersReadable ["include", "exclude"] entries then return ⟨included, excluded⟩
    else none
  | .date => some ⟨none, none⟩
  | item => do
    let first :: second :: _ ← item.items? | none
    return ⟨some (← first.texts?), some (← second.texts?)⟩

def Config.ofToml? (text : String) : Option Config := do
  let entries ← document? text
  let linter ← Item.field? entries "linter" LinterConfig.ofToml?
  let files ← Item.field? entries "files" FilesConfig.ofToml?
  if Item.othersReadable ["linter", "files"] entries then return ⟨linter, files⟩ else none

end TreeLint
