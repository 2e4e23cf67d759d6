import TreeLint.Toml.Scalar

/-!
# TOML documents

A document is a sequence of lines that define keys and open tables.  A key may
be dotted, which defines tables on the way; a table in brackets may be defined
once, and a value or an inline table can never be extended.  Each table
remembers how it came to be, because that decides what may still be added.
-/

namespace TreeLint

namespace Toml

/-- How a table came to be. -/
inductive Origin where
  /-- On the way to a table in brackets. -/
  | implicit
  /-- On the way to a dotted key. -/
  | dotted
  /-- By its own brackets, or as the document itself. -/
  | explicit
  /-- Between braces. -/
  | inline
deriving DecidableEq, Repr

/-- What a key stands for. -/
inductive Item where
  | text (content : String)
  | flag (value : Bool)
  | number
  /-- What has the form of a number but no value. -/
  | unreadable
  | date
  | array (items : List Item)
  /-- Tables that were opened in double brackets. -/
  | tables (items : List Item)
  | table (origin : Origin) (entries : List (String × Item))

instance : Inhabited Item := ⟨.number⟩

mutual

/-- Whether all numbers in an item have values. -/
def Item.readable : Item → Bool
  | .unreadable => false
  | .array items => allReadable items
  | .tables items => allReadable items
  | .table _ entries => entriesReadable entries
  | _ => true

/-- Whether all numbers in a list of items have values. -/
def allReadable : List Item → Bool
  | [] => true
  | item :: rest => item.readable && allReadable rest

/-- Whether all numbers in the entries of a table have values. -/
def entriesReadable : List (String × Item) → Bool
  | [] => true
  | entry :: rest => entryReadable entry && entriesReadable rest

/-- Whether all numbers in the value of a key have values. -/
def entryReadable : String × Item → Bool
  | (_, item) => item.readable

end

/-- A table with its origin. -/
abbrev Table := Origin × List (String × Item)

/-- Replaces the value of a key that is there. -/
def replace (key : String) (item : Item) (entries : List (String × Item)) :
    List (String × Item) :=
  entries.map fun entry => if entry.1 == key then (key, item) else entry

/-- Changes the table that a path of keys leads to, and defines the tables on
the way that are missing.  A path of a dotted key never enters a table that was
defined in brackets, and no path enters an inline table. -/
def modify (dotted : Bool) (change : Table → Option Table) :
    List String → Table → Option Table
  | [], table => change table
  | key :: path, (origin, entries) =>
    match entries.lookup key with
    | none => do
      let (inner, innerEntries) ←
        modify dotted change path (if dotted then .dotted else .implicit, [])
      return (origin, entries ++ [(key, .table inner innerEntries)])
    | some (.table inner innerEntries) =>
      if inner == .inline || (dotted && inner == .explicit) then none
      else do
        let (inner, innerEntries) ← modify dotted change path (inner, innerEntries)
        return (origin, replace key (.table inner innerEntries) entries)
    | some (.tables items) =>
      match items.getLast? with
      | some (.table inner innerEntries) => do
        let (inner, innerEntries) ← modify dotted change path (inner, innerEntries)
        return (origin,
          replace key (.tables (items.dropLast ++ [.table inner innerEntries])) entries)
      | _ => none
    | some _ => none

/-- Defines a key in a table.  A dotted key extends only tables that dotted keys
defined. -/
def define (path : List String) (key : String) (item : Item) : Table → Option Table :=
  modify true (fun (origin, entries) =>
    if (origin == .dotted) == path.isEmpty then none
    else if (entries.lookup key).isSome then none
    else some (origin, entries ++ [(key, item)])) path

/-- Opens a table in brackets. -/
def openTable (path : List String) (key : String) : Table → Option Table :=
  modify false (fun (origin, entries) =>
    match entries.lookup key with
    | none => some (origin, entries ++ [(key, .table .explicit [])])
    | some (.table .implicit inner) =>
      some (origin, replace key (.table .explicit inner) entries)
    | some _ => none) path

/-- Opens one more table of an array of tables. -/
def openTables (path : List String) (key : String) : Table → Option Table :=
  modify false (fun (origin, entries) =>
    match entries.lookup key with
    | none => some (origin, entries ++ [(key, .tables [.table .explicit []])])
    | some (.tables items) =>
      some (origin, replace key (.tables (items ++ [.table .explicit []])) entries)
    | some _ => none) path

/-! ## Reading -/

/-- Passes over a comment up to the end of its line; none if it contains a
forbidden character. -/
def skipComment? : List Char → Option (List Char)
  | '#' :: rest =>
    let line := rest.takeWhile (· != '\n')
    let behind := rest.dropWhile (· != '\n')
    -- a carriage return may only stand directly before the line feed
    let content := if line.getLast? == some '\r' && !behind.isEmpty then line.dropLast else line
    if content.any isForbidden then none else some behind
  | rest => some rest

theorem skipComment?_shorter {text rest : List Char}
    (found : skipComment? ('#' :: text) = some rest) : rest.length < text.length + 1 := by
  have bound := (List.dropWhile_sublist (l := text) (· != '\n')).length_le
  simp only [skipComment?, Option.ite_none_left_eq_some, Option.some.injEq] at found
  obtain ⟨_, rfl⟩ := found
  omega

/-- Passes over spaces, line breaks and comments. -/
def skipBlank? (text : List Char) : Option (List Char) :=
  match _front : skipLines text with
  | '#' :: rest =>
    match _comment : skipComment? ('#' :: rest) with
    | some behind => skipBlank? behind
    | none => none
  | rest => some rest
termination_by text.length
decreasing_by
  have bound := skipLines_length_le text
  have shorter := skipComment?_shorter _comment
  rw [_front] at bound
  simp only [List.length_cons] at bound
  omega

/-- The end of a line: spaces, perhaps a comment, and a break or the end. -/
def endLine? (text : List Char) : Option (List Char) :=
  match skipComment? (text.dropWhile isSpace) with
  | some [] => some []
  | some ('\n' :: rest) => some rest
  | some ('\r' :: '\n' :: rest) => some rest
  | _ => none

def isBareKey (c : Char) : Bool :=
  c.isAlphanum || c == '_' || c == '-'

/-- One part of a key: bare, or a string on one line. -/
def simpleKey? (text : List Char) : Option (String × List Char) :=
  match text with
  | '"' :: rest => basicString? [] rest
  | '\'' :: rest => literalString? [] rest
  | text =>
    let name := text.takeWhile isBareKey
    if name.isEmpty then none else some (String.ofList name, text.dropWhile isBareKey)

/-- How many parts a key may have, and how deep collections may be nested. -/
def depthLimit : Nat := 80

/-- The parts of a key up to a number of them, behind those of `path`, as the path
to its table and its last part. -/
def keyParts? : Nat → List String → List Char → Option (List String × String × List Char)
  | 0, _, _ => none
  | count + 1, path, text =>
    match simpleKey? (text.dropWhile isSpace) with
    | none => none
    | some (part, rest) =>
      match rest.dropWhile isSpace with
      | '.' :: rest => keyParts? count (part :: path) rest
      | rest => some (path.reverse, part, rest)

/-- A key with its dots, as the path to its table and its last part. -/
def key? (text : List Char) : Option (List String × String × List Char) :=
  keyParts? depthLimit [] text

/-- The characters of numbers, dates and names: all but blanks and the signs that
divide values. -/
def isScalarChar (c : Char) : Bool :=
  !(isSpace c || c == '\n' || c == '\r' || c == '#' || c == '=' || c == ',' || c == '[' ||
    c == ']' || c == '\x7b' || c == '\x7d')

/-- Whether a character behind blanks goes on with the value in front of them.  A
quote starts a string, and a point goes on only where nothing divides. -/
def resumesScalar (c : Char) : Bool :=
  isScalarChar c && c != '.' && c != '"' && c != '\''

/-- The text of a value that is neither a string nor a collection, with the blanks
between its words, and what stands behind it.  The text read so far and the blanks
behind it are held last character first. -/
def scalarText (done blanks : List Char) : List Char → List Char × List Char
  | [] => (done.reverse, blanks.reverse)
  | c :: rest =>
    if isSpace c then scalarText done (c :: blanks) rest
    else if resumesScalar c || (blanks.isEmpty && isScalarChar c) then
      scalarText (c :: blanks ++ done) [] rest
    else (done.reverse, blanks.reverse ++ c :: rest)

/-- A value that is neither a string nor a collection. -/
def scalar? (text : List Char) : Option (Item × List Char) :=
  let (word, rest) := scalarText [] [] text
  if word == ['t', 'r', 'u', 'e'] then some (.flag true, rest)
  else if word == ['f', 'a', 'l', 's', 'e'] then some (.flag false, rest)
  else
    match number? word with
    | some true => some (.number, rest)
    | some false => some (.unreadable, rest)
    | none => if isDate word then some (.date, rest) else none

mutual

/-- A value, inside `depth` collections.  No character costs more than two steps,
so fuel for twice the length of the text is enough. -/
def value? : Nat → Nat → List Char → Option (Item × List Char)
  | 0, _, _ => none
  | fuel + 1, depth, text =>
    match text with
    | '[' :: rest => if depth < depthLimit then items? fuel (depth + 1) [] rest else none
    | '\x7b' :: rest =>
      if depth < depthLimit then entries? fuel (depth + 1) (.explicit, []) rest else none
    | '"' :: _ => (string? text).map fun (content, rest) => (.text content, rest)
    | '\'' :: _ => (string? text).map fun (content, rest) => (.text content, rest)
    | _ => scalar? text

/-- The items of an array, past its opening bracket or a comma. -/
def items? : Nat → Nat → List Item → List Char → Option (Item × List Char)
  | 0, _, _, _ => none
  | fuel + 1, depth, done, text => do
    match ← skipBlank? text with
    | ']' :: rest => return (.array done.reverse, rest)
    | text =>
      let (item, rest) ← value? fuel depth text
      match ← skipBlank? rest with
      | ',' :: rest => items? fuel depth (item :: done) rest
      | ']' :: rest => return (.array (item :: done).reverse, rest)
      | _ => none

/-- The entries of an inline table, past its opening brace or a comma.  Lines may
break everywhere but inside a key. -/
def entries? : Nat → Nat → Table → List Char → Option (Item × List Char)
  | 0, _, _, _ => none
  | fuel + 1, depth, table, text => do
    match ← skipBlank? text with
    | '\x7d' :: rest => return (.table .inline table.2, rest)
    | text =>
      let (path, key, rest) ← key? text
      let '=' :: rest ← skipBlank? rest | none
      let (item, rest) ← value? fuel depth (← skipBlank? rest)
      let table ← define path key item table
      match ← skipBlank? rest with
      | ',' :: rest => entries? fuel depth table rest
      | '\x7d' :: rest => return (.table .inline table.2, rest)
      | _ => none

end

/-- A document while it is read: its table, and the path of the table that new
keys belong to. -/
structure Draft where
  root : Table
  current : List String

/-- Reads one line that is not blank, with fuel for its value. -/
def statement? (fuel : Nat) (draft : Draft) (text : List Char) :
    Option (Draft × List Char) := do
  match text with
  | '[' :: '[' :: rest =>
    let (path, key, rest) ← key? rest
    let ']' :: ']' :: rest := rest | none
    let root ← openTables path key draft.root
    return (⟨root, path ++ [key]⟩, ← endLine? rest)
  | '[' :: rest =>
    let (path, key, rest) ← key? rest
    let ']' :: rest := rest | none
    let root ← openTable path key draft.root
    return (⟨root, path ++ [key]⟩, ← endLine? rest)
  | text =>
    let (path, key, rest) ← key? text
    let '=' :: rest := rest | none
    let (item, rest) ← value? fuel 0 (rest.dropWhile isSpace)
    let root ← modify false (define path key item) draft.current draft.root
    return (⟨root, draft.current⟩, ← endLine? rest)

/-- Reads the remaining lines.  Every line takes more characters than the one step
that is counted for it, so what is fuel enough for the values of the text stays
fuel enough for the values of the rest. -/
def statements? : Nat → Draft → List Char → Option Draft
  | 0, _, _ => none
  | fuel + 1, draft, text => do
    match ← skipBlank? text with
    | [] => return draft
    | text =>
      let (draft, rest) ← statement? fuel draft text
      statements? fuel draft rest

/-- Reads a document as the entries of its table.  A byte order mark in front is
passed over. -/
def document? (text : String) : Option (List (String × Item)) :=
  let chars :=
    match text.toList with
    | '\ufeff' :: rest => rest
    | chars => chars
  (statements? (2 * chars.length + 2) ⟨(.explicit, []), []⟩ chars).map fun draft => draft.root.2

end Toml

end TreeLint
