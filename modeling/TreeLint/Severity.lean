import TreeLint.Json.Reader

/-!
# Severities of rules

A rule is off, or its violations count as information, warnings or errors, in
this order.  A rule without a configured severity warns.
-/

namespace TreeLint

open Json

inductive Severity where
  | off
  | info
  | warn
  | error
deriving DecidableEq, Repr

namespace Severity

instance : Inhabited Severity := ⟨.warn⟩

def all : List Severity :=
  [.off, .info, .warn, .error]

def name : Severity → String
  | .off => "off"
  | .info => "info"
  | .warn => "warn"
  | .error => "error"

/-- Whether a rule of this severity runs at all. -/
def enabled (severity : Severity) : Bool :=
  severity != .off

/-- Severities in increasing order. -/
def rank : Severity → Nat
  | .off => 0
  | .info => 1
  | .warn => 2
  | .error => 3

instance : Ord Severity := ⟨fun first second => compare first.rank second.rank⟩

/-- The severity of a name, or the complaint about the name. -/
def ofName (name : String) : Except Fault Severity :=
  match all.find? fun severity => severity.name == name with
  | some severity => .ok severity
  | none => .error (.unknownVariant name (all.map Severity.name))

/-- A severity is written as its name, or as an object whose only key is the
name and whose only value is `null`. -/
def ofValue : Value → Except Fault Severity
  | .text (some name) => ofName name
  | .object (.named (some name) value :: rest) intact => do
    let severity ← ofName name
    value.readNull
    if rest.isEmpty && intact then return severity else throw .malformed
  | _ => .error .malformed

/-- Reads a severity from its JSON text. -/
def ofJson (text : String) : Except Fault Severity :=
  readDocument ofValue text

end Severity

end TreeLint
