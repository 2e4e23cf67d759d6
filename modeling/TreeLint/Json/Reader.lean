import TreeLint.Json.Fault

/-!
# Reading JSON values as data

Readers take a value apart from left to right and stop at the first objection.
A record is read from an object, whose unknown members are skipped, or from an
array that lists its fields in order.
-/

namespace TreeLint

namespace Json

namespace Value

/-- What a value is described as when something else was expected; none for a
value that is itself faulty. -/
def found? : Value → Option Found
  | .null => some .null
  | .boolean value => some (.boolean value)
  | .number numeral =>
    numeral.quantity?.map fun
      | .integer value => .integer value
      | .real written => .real written
  | .text content => content.map .text
  | .array _ _ => some .sequence
  | .object _ _ => some .table
  | .broken => none

/-- The fault of a value that is not of the expected sort. -/
def unexpected (value : Value) (expected : String) : Fault :=
  match value.found? with
  | some found => .invalidType found expected
  | none => .malformed

def readText : Value → Except Fault String
  | .text (some content) => .ok content
  | value => .error (value.unexpected "a string")

def readFlag : Value → Except Fault Bool
  | .boolean value => .ok value
  | value => .error (value.unexpected "a boolean")

/-- A natural number of 32 bits. -/
def readWord (value : Value) : Except Fault UInt32 :=
  match value.found? with
  | some (.integer given) =>
    if 0 ≤ given ∧ given < UInt32.size then .ok given.toNat.toUInt32
    else .error (.invalidValue given "u32")
  | _ => .error (value.unexpected "u32")

def readNull : Value → Except Fault Unit
  | .null => .ok ()
  | value => .error (value.unexpected "unit")

/-- A value that may be `null`. -/
def readOptional {α : Type} (read : Value → Except Fault α) : Value → Except Fault (Option α)
  | .null => .ok none
  | value => (read value).map some

/-- An array of which every item is read. -/
def readList {α : Type} (read : Value → Except Fault α) : Value → Except Fault (List α)
  | .array items intact =>
    match items.mapM read with
    | .error fault => .error fault
    | .ok results => if intact then .ok results else .error .malformed
  | value => .error (value.unexpected "a sequence")

/-- Reads the members of an object into a table, one by one. -/
def readEntries {α : Type} (read : Value → Except Fault α) (done : List (String × α)) :
    List Member → Except Fault (List (String × α))
  | [] => .ok done.reverse
  | .named (some key) value :: rest =>
    match read value with
    | .ok entry => readEntries read ((key, entry) :: done) rest
    | .error fault => .error fault
  | _ :: _ => .error .malformed

/-- An object whose keys are free, as the list of its entries. -/
def readTable {α : Type} (read : Value → Except Fault α) :
    Value → Except Fault (List (String × α))
  | .object members intact =>
    match readEntries read [] members with
    | .error fault => .error fault
    | .ok entries => if intact then .ok entries else .error .malformed
  | value => .error (value.unexpected "a map")

end Value

/-- How a record is read: `assign` takes the value of a field, `close` builds
the result, and in array form the first `required` fields have to be there. -/
structure Record (δ α : Type) where
  name : String
  fields : List String
  required : Nat
  empty : δ
  assign : String → Value → δ → Except Fault δ
  close : δ → Except Fault α

namespace Record

variable {δ α : Type}

/-- The members of an object, `seen` being the fields met so far. -/
def readMembers (record : Record δ α) (seen : List String) (draft : δ) :
    List Member → Except Fault δ
  | [] => .ok draft
  | .named (some key) value :: rest =>
    if key ∈ record.fields then
      if key ∈ seen then .error (.duplicateField key)
      else
        match record.assign key value draft with
        | .ok draft => readMembers record (key :: seen) draft rest
        | .error fault => .error fault
    else if value.intact then readMembers record seen draft rest
    else .error .malformed
  | _ :: _ => .error .malformed

/-- The elements of an array, one field after the other. -/
def readElements (record : Record δ α) (draft : δ) :
    List String → List Value → Except Fault δ
  | _, [] => .ok draft
  | [], _ :: _ => .error .malformed
  | field :: fields, value :: rest =>
    match record.assign field value draft with
    | .ok draft => readElements record draft fields rest
    | .error fault => .error fault

/-- Reads a record. -/
def read (record : Record δ α) : Value → Except Fault α
  | .object members intact =>
    match readMembers record [] record.empty members with
    | .error fault => .error fault
    | .ok draft => if intact then record.close draft else .error .malformed
  | .array items intact =>
    match readElements record record.empty record.fields items with
    | .error fault => .error fault
    | .ok draft =>
      if !intact then .error .malformed
      else if items.length < record.required then
        .error (.invalidLength items.length record.name record.fields.length)
      else record.close draft
  | value => .error (value.unexpected ("struct " ++ record.name))

/-- The value of a field that has to be given. -/
def demand {β : Type} (field : String) : Option β → Except Fault β
  | some value => .ok value
  | none => .error (.missingField field)

end Record

/-- Reads a whole text, which has to end with its value. -/
def readDocument {α : Type} (read : Value → Except Fault α) (text : String) :
    Except Fault α :=
  let document := Document.ofText text
  match read document.value with
  | .error fault => .error fault
  | .ok result => if document.ended then .ok result else .error .malformed

end Json

end TreeLint
