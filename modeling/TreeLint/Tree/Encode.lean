import TreeLint.Tree.Raw
import TreeLint.Json.Writer

/-!
# Trees as JSON

A node is written as an object without blanks, its members in the order
`kind`, `children`, `text`, `line`, `column`.  An empty list of children and
absent fields are left out.
-/

namespace TreeLint

open Json

namespace RawNode

/-- The member of a field that may be absent. -/
def writeField (name : String) : Option String → String
  | some value => ",\"" ++ name ++ "\":" ++ value
  | none => ""

def writeWord (value : UInt32) : String :=
  toString value.toNat

mutual

/-- Writes a node behind the text written so far. -/
def write (out : String) : RawNode → String
  | .mk kind children text line column =>
    let start := out ++ "\x7b\"kind\":" ++ writeText kind.name
    let list :=
      match children with
      | [] => start
      | slot :: rest => writeRest (writeSlot (start ++ ",\"children\":[") slot) rest ++ "]"
    list ++ writeField "text" (text.map writeText) ++
      writeField "line" (line.map writeWord) ++
      writeField "column" (column.map writeWord) ++ "\x7d"

def writeSlot (out : String) : Option RawNode → String
  | some raw => raw.write out
  | none => out ++ "null"

/-- Writes the slots after the first one, each behind a comma. -/
def writeRest (out : String) : List (Option RawNode) → String
  | [] => out
  | slot :: rest => writeRest (writeSlot (out ++ ",") slot) rest

end

def toJson (raw : RawNode) : String :=
  raw.write ""

end RawNode

def Tree.toJson (tree : Tree) : String :=
  (tree.capture tree.root).toJson

end TreeLint
