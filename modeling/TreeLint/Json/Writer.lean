/-!
# Writing JSON

Strings are written with the shortest escapes: quotes, backslashes and control
characters are escaped, everything else stands for itself.  Whole documents
are written either without any blanks or spread over lines with two blanks per
level.
-/

namespace TreeLint

namespace Json

/-- The hexadecimal digit of a number below 16. -/
def hexChar (value : Nat) : Char :=
  if value < 10 then Char.ofNat (value + '0'.toNat) else Char.ofNat (value - 10 + 'a'.toNat)

/-- One character inside a written string. -/
def escapeChar (c : Char) : List Char :=
  if c == '"' then ['\\', '"']
  else if c == '\\' then ['\\', '\\']
  else if c == '\x08' then ['\\', 'b']
  else if c == '\x0c' then ['\\', 'f']
  else if c == '\n' then ['\\', 'n']
  else if c == '\r' then ['\\', 'r']
  else if c == '\t' then ['\\', 't']
  else if c.toNat < 0x20 then
    ['\\', 'u', '0', '0', hexChar (c.toNat / 16), hexChar (c.toNat % 16)]
  else [c]

/-- A string with its quotes. -/
def writeText (content : String) : String :=
  "\"" ++ String.ofList (content.toList.flatMap escapeChar) ++ "\""

/-- A document to be written. -/
inductive Output where
  | null
  | number (value : Nat)
  | text (content : String)
  | array (items : List Output)
  | object (members : List (String × Output))

namespace Output

/-- The start of a line inside `depth` brackets. -/
def newline (depth : Nat) : String :=
  "\n" ++ String.ofList (List.replicate (2 * depth) ' ')

/-- The items between two brackets, each on a line of its own. -/
def enclose (opening closing : String) (depth : Nat) (items : List String) : String :=
  if items.isEmpty then opening ++ closing
  else
    opening ++ newline (depth + 1) ++
      String.intercalate ("," ++ newline (depth + 1)) items ++ newline depth ++ closing

mutual

/-- The document spread over lines, starting inside `depth` brackets. -/
def pretty (depth : Nat) : Output → String
  | .null => "null"
  | .number value => toString value
  | .text content => writeText content
  | .array items => enclose "[" "]" depth (prettyItems (depth + 1) items)
  | .object members => enclose "\x7b" "\x7d" depth (prettyMembers (depth + 1) members)

/-- Each item of an array. -/
def prettyItems (depth : Nat) : List Output → List String
  | [] => []
  | item :: rest => item.pretty depth :: prettyItems depth rest

/-- Each member of an object. -/
def prettyMembers (depth : Nat) : List (String × Output) → List String
  | [] => []
  | (key, value) :: rest =>
    (writeText key ++ ": " ++ value.pretty depth) :: prettyMembers depth rest

end

end Output

end Json

end TreeLint
