import TreeLint.Proofs.JsonLexemes
import TreeLint.Tree.Decode
import TreeLint.Tree.Encode

/-!
# The text of a node is read back

A node in exchange form is written as a JSON object in which an empty list of
children and absent fields are left out.  Reading the text gives the value with
exactly these members, and reading the value as a node puts the defaults back,
so that every node in exchange form is recovered from its text.
-/

namespace TreeLint

open Json

namespace RawNode

@[elab_as_elim]
theorem induction {motive : RawNode → Prop}
    (mk : ∀ kind children text line column, (∀ raw, some raw ∈ children → motive raw) →
      motive (.mk kind children text line column)) : ∀ raw, motive raw
  | .mk kind children text line column =>
      mk kind children text line column fun raw _isChild => induction mk raw
termination_by raw => sizeOf raw
decreasing_by
  have smaller := List.sizeOf_lt_of_mem _isChild
  simp only [Option.some.sizeOf_spec, RawNode.mk.sizeOf_spec] at smaller ⊢
  omega

/-! ## What is written -/

/-- The text of what stands in a slot. -/
def slotJson : Option RawNode → String
  | none => "null"
  | some raw => raw.toJson

theorem writeSlot_of {slot : Option RawNode}
    (node : ∀ raw, slot = some raw → ∀ out, raw.write out = out ++ raw.toJson)
    (out : String) : writeSlot out slot = out ++ slotJson slot := by
  cases slot with
  | none => rfl
  | some raw => exact node raw rfl out

theorem writeRest_of {slots : List (Option RawNode)}
    (nodes : ∀ raw, some raw ∈ slots → ∀ out, raw.write out = out ++ raw.toJson)
    (out : String) :
    writeRest out slots = out ++ String.join (slots.map fun slot => "," ++ slotJson slot) := by
  induction slots generalizing out with
  | nil => simp [writeRest]
  | cons slot rest ih =>
      rw [writeRest, writeSlot_of fun raw here => nodes raw (by simp [here]),
        ih fun raw member => nodes raw (List.mem_cons_of_mem _ member)]
      simp [String.append_assoc]

/-- The text of the list of children, left out if there are none. -/
def childrenJson : List (Option RawNode) → String
  | [] => ""
  | slot :: rest =>
      ",\"children\":[" ++ slotJson slot ++
        String.join (rest.map fun slot => "," ++ slotJson slot) ++ "]"

@[simp]
theorem childrenJson_nil : childrenJson [] = "" := rfl

@[simp]
theorem childrenJson_cons (slot : Option RawNode) (rest : List (Option RawNode)) :
    childrenJson (slot :: rest) =
      ",\"children\":[" ++ slotJson slot ++
        String.join (rest.map fun slot => "," ++ slotJson slot) ++ "]" := rfl

theorem write_of {kind : Kind} {children : List (Option RawNode)} {text : Option String}
    {line column : Option UInt32}
    (nodes : ∀ raw, some raw ∈ children → ∀ out, raw.write out = out ++ raw.toJson)
    (out : String) :
    (RawNode.mk kind children text line column).write out =
      out ++ ("\x7b\"kind\":" ++ writeText kind.name ++ childrenJson children ++
        writeField "text" (text.map writeText) ++ writeField "line" (line.map writeWord) ++
        writeField "column" (column.map writeWord) ++ "\x7d") := by
  cases children with
  | nil =>
      rw [write]
      simp [String.append_assoc]
  | cons slot rest =>
      rw [write, writeSlot_of fun raw here => nodes raw (by simp [here]),
        writeRest_of fun raw member => nodes raw (List.mem_cons_of_mem _ member)]
      simp [String.append_assoc]

theorem write_eq (raw : RawNode) (out : String) : raw.write out = out ++ raw.toJson := by
  induction raw using RawNode.induction generalizing out with
  | mk kind children text line column ih =>
      rw [toJson, write_of ih, write_of ih, String.empty_append]

theorem toJson_eq (kind : Kind) (children : List (Option RawNode)) (text : Option String)
    (line column : Option UInt32) :
    (RawNode.mk kind children text line column).toJson =
      "\x7b\"kind\":" ++ writeText kind.name ++ childrenJson children ++
        writeField "text" (text.map writeText) ++ writeField "line" (line.map writeWord) ++
        writeField "column" (column.map writeWord) ++ "\x7d" := by
  rw [toJson, write_of fun raw _ => raw.write_eq, String.empty_append]

/-! ## The value of the text -/

/-- The member of a field that may be absent. -/
def fieldMembers (name : String) : Option Value → List Member
  | some value => [.named (some name) value]
  | none => []

/-- A text as a JSON value. -/
def textValue (content : String) : Value :=
  .text (some content)

/-- A number of 32 bits as a JSON value. -/
def wordValue (word : UInt32) : Value :=
  .number ⟨false, Lexeme.digitsOf word.toNat, [], none⟩

mutual

/-- The JSON value of a node. -/
def value : RawNode → Value
  | .mk kind children text line column =>
      .object (.named (some "kind") (textValue kind.name) ::
        ((match children with
          | [] => []
          | slot :: rest => [.named (some "children") (.array (slotValues (slot :: rest)) true)]) ++
        fieldMembers "text" (text.map textValue) ++ fieldMembers "line" (line.map wordValue) ++
        fieldMembers "column" (column.map wordValue))) true

/-- The JSON values of slots. -/
def slotValues : List (Option RawNode) → List Value
  | [] => []
  | none :: rest => .null :: slotValues rest
  | some raw :: rest => raw.value :: slotValues rest

end

/-- The member with the children, left out if there are none. -/
def childrenMembers : List (Option RawNode) → List Member
  | [] => []
  | slot :: rest => [.named (some "children") (.array (slotValues (slot :: rest)) true)]

theorem value_eq (kind : Kind) (children : List (Option RawNode)) (text : Option String)
    (line column : Option UInt32) :
    (RawNode.mk kind children text line column).value =
      .object (.named (some "kind") (textValue kind.name) :: (childrenMembers children ++
        fieldMembers "text" (text.map textValue) ++ fieldMembers "line" (line.map wordValue) ++
        fieldMembers "column" (column.map wordValue))) true := by
  cases children <;> simp only [value, childrenMembers]

end RawNode

/-! ## Reading the text -/

namespace Json.Document

theorem readFrom_step {reading next : Reading} {lexeme : Lexeme} {text rest : List Char}
    (found : Lexeme.next? text = some (lexeme, rest))
    (stepped : reading.step? lexeme = some next) :
    readFrom reading text = readFrom next rest := by
  rw [readFrom.eq_def]
  split
  · rename_i nothing
    simp [found] at nothing
  · rename_i other tail otherFound
    rw [found] at otherFound
    cases otherFound
    simp only [stepped]

/-- A text in front of others is read as a value, wherever one has to come. -/
def Reads (text : List Char) (value : Value) (rest : List Char) : Prop :=
  ∀ stack, readFrom (.expectValue stack) (text ++ rest) =
    readFrom (Reading.deliver value stack) rest

theorem reads_null (rest : List Char) : Reads "null".toList .null rest := by
  intro stack
  exact readFrom_step rfl rfl

theorem reads_text (content : String) (rest : List Char) :
    Reads (writeText content).toList (RawNode.textValue content) rest := by
  intro stack
  exact readFrom_step (Lexeme.next?_writeText content rest) rfl

theorem reads_word (word : UInt32) {rest : List Char} (stops : Lexeme.StopsNumber rest) :
    Reads (RawNode.writeWord word).toList (RawNode.wordValue word) rest := by
  intro stack
  have digits : (RawNode.writeWord word).toList = Nat.toDigits 10 word.toNat := by
    simp [RawNode.writeWord]
  rw [digits]
  exact readFrom_step (Lexeme.next?_toDigits word.toNat stops) rfl

/-- A name that is written as it stands. -/
def Plain (name : String) : Prop :=
  name.toList.flatMap escapeChar = name.toList

theorem readFrom_member {name : String} (plain : Plain name) {text rest : List Char}
    {value : Value} (reads : Reads text value rest) (members : List Member)
    (stack : List Context) :
    readFrom (.afterMember members stack) ((",\"" ++ name ++ "\":").toList ++ text ++ rest) =
      readFrom (.afterMember (.named (some name) value :: members) stack) rest := by
  have key := Lexeme.next?_writeText name (':' :: (text ++ rest))
  have written : (",\"" ++ name ++ "\":").toList ++ text ++ rest =
      ',' :: ((writeText name).toList ++ ':' :: (text ++ rest)) := by
    simp [writeText, show name.toList.flatMap escapeChar = name.toList from plain]
  calc
    _ = readFrom (.afterMember members stack)
          (',' :: ((writeText name).toList ++ ':' :: (text ++ rest))) := by rw [written]
    _ = readFrom (.expectKey members stack)
          ((writeText name).toList ++ ':' :: (text ++ rest)) := readFrom_step rfl rfl
    _ = readFrom (.expectColon members (some name) stack) (':' :: (text ++ rest)) :=
        readFrom_step key rfl
    _ = readFrom (.expectValue (.entry members (some name) :: stack)) (text ++ rest) :=
        readFrom_step rfl rfl
    _ = _ := reads _

theorem readFrom_writeField {α : Type} {name : String} (plain : Plain name) (item : Option α)
    {write : α → String} {valueOf : α → Value} {rest : List Char}
    (reads : ∀ content, Reads (write content).toList (valueOf content) rest)
    (members : List Member) (stack : List Context) :
    readFrom (.afterMember members stack)
        ((RawNode.writeField name (item.map write)).toList ++ rest) =
      readFrom (.afterMember
        ((RawNode.fieldMembers name (item.map valueOf)).reverse ++ members) stack) rest := by
  cases item with
  | none => rfl
  | some content =>
      have read := readFrom_member plain (reads content) members stack
      simpa [RawNode.writeField, RawNode.fieldMembers] using read

theorem stopsNumber_writeField (name : String) (item : Option String) {rest : List Char}
    (stops : Lexeme.StopsNumber rest) :
    Lexeme.StopsNumber ((RawNode.writeField name item).toList ++ rest) := by
  cases item with
  | none => simpa [RawNode.writeField] using stops
  | some value => simp [RawNode.writeField, Lexeme.StopsNumber]

end Json.Document

namespace RawNode

open Json.Document

theorem reads_slotJson {slot : Option RawNode} {rest : List Char}
    (node : ∀ raw, slot = some raw → Reads raw.toJson.toList raw.value rest) :
    Reads (slotJson slot).toList ((slot.map value).getD .null) rest := by
  cases slot with
  | none => exact reads_null rest
  | some raw => exact node raw rfl

theorem slotValues_eq_map (slots : List (Option RawNode)) :
    slotValues slots = slots.map fun slot => (slot.map value).getD .null := by
  induction slots with
  | nil => rfl
  | cons slot rest ih => cases slot <;> simp [slotValues, ih]

theorem readFrom_slots {slots : List (Option RawNode)}
    (nodes : ∀ raw, some raw ∈ slots → ∀ rest, Reads raw.toJson.toList raw.value rest)
    (items : List Value) (stack : List Context) (rest : List Char) :
    readFrom (.afterItem items stack)
        ((String.join (slots.map fun slot => "," ++ slotJson slot)).toList ++ ']' :: rest) =
      readFrom (Reading.deliver (.array (items.reverse ++ slotValues slots) true) stack)
        rest := by
  induction slots generalizing items with
  | nil =>
      rw [slotValues, List.append_nil]
      exact readFrom_step rfl rfl
  | cons slot slots ih =>
      have later := fun raw member => nodes raw (List.mem_cons_of_mem _ member)
      let tail := (String.join (slots.map fun slot => "," ++ slotJson slot)).toList ++ ']' :: rest
      have item : Reads (slotJson slot).toList ((slot.map value).getD .null) tail :=
        reads_slotJson fun raw here => nodes raw (by simp [here]) tail
      calc
        _ = readFrom (.afterItem items stack) (',' :: ((slotJson slot).toList ++ tail)) := by
            simp [tail]
        _ = readFrom (.expectValue (.item items :: stack)) ((slotJson slot).toList ++ tail) :=
            readFrom_step rfl rfl
        _ = readFrom (.afterItem ((slot.map value).getD .null :: items) stack) tail := item _
        _ = _ := by
            rw [ih later]
            simp [slotValues_eq_map]

/-- Behind an opening bracket, a slot is read as behind a comma. -/
theorem readFrom_firstItem (slot : Option RawNode) (stack : List Context) (rest : List Char) :
    readFrom (.firstItem stack) ((slotJson slot).toList ++ rest) =
      readFrom (.expectValue (.item [] :: stack)) ((slotJson slot).toList ++ rest) := by
  cases slot with
  | none => exact (readFrom_step rfl rfl).trans (readFrom_step rfl rfl).symm
  | some raw =>
      obtain ⟨kind, children, text, line, column⟩ := raw
      obtain ⟨tail, opened⟩ : ∃ tail,
          (slotJson (some (.mk kind children text line column))).toList ++ rest =
            '\x7b' :: tail := by
        simp [slotJson, toJson_eq]
      rw [opened]
      exact (readFrom_step rfl rfl).trans (readFrom_step rfl rfl).symm

theorem readFrom_childrenJson {children : List (Option RawNode)}
    (nodes : ∀ raw, some raw ∈ children → ∀ rest, Reads raw.toJson.toList raw.value rest)
    (members : List Member) (stack : List Context) (rest : List Char) :
    readFrom (.afterMember members stack) ((childrenJson children).toList ++ rest) =
      readFrom (.afterMember ((childrenMembers children).reverse ++ members) stack) rest := by
  cases children with
  | nil => rfl
  | cons slot slots =>
      let tail := (String.join (slots.map fun slot => "," ++ slotJson slot)).toList ++ ']' :: rest
      have array : Reads ('[' :: ((slotJson slot).toList ++
          (String.join (slots.map fun slot => "," ++ slotJson slot)).toList ++ [']']))
          (.array (slotValues (slot :: slots)) true) rest := by
        intro stack
        have item : Reads (slotJson slot).toList ((slot.map value).getD .null) tail :=
          reads_slotJson fun raw here => nodes raw (by simp [here]) tail
        calc
          _ = readFrom (.expectValue stack) ('[' :: ((slotJson slot).toList ++ tail)) := by
              simp [tail]
          _ = readFrom (.firstItem stack) ((slotJson slot).toList ++ tail) :=
              readFrom_step rfl rfl
          _ = readFrom (.expectValue (.item [] :: stack)) ((slotJson slot).toList ++ tail) :=
              readFrom_firstItem slot stack tail
          _ = readFrom (.afterItem [(slot.map value).getD .null] stack) tail := item _
          _ = _ := by
              rw [readFrom_slots fun raw member => nodes raw (List.mem_cons_of_mem _ member)]
              simp [slotValues_eq_map]
      have plain : Plain "children" := rfl
      have read := readFrom_member plain array members stack
      simpa [childrenMembers] using read

/-- The text of a node is read as its value. -/
theorem reads_toJson (raw : RawNode) (rest : List Char) :
    Reads raw.toJson.toList raw.value rest := by
  induction raw using RawNode.induction generalizing rest with
  | mk kind children text line column ih =>
      intro stack
      have closes : Lexeme.StopsNumber ('\x7d' :: rest) := by simp [Lexeme.StopsNumber]
      let afterLine :=
        (writeField "column" (column.map writeWord)).toList ++ '\x7d' :: rest
      let afterText := (writeField "line" (line.map writeWord)).toList ++ afterLine
      let afterChildren := (writeField "text" (text.map writeText)).toList ++ afterText
      let afterKind := (childrenJson children).toList ++ afterChildren
      have lineStops : Lexeme.StopsNumber afterLine := stopsNumber_writeField _ _ closes
      calc
        _ = readFrom (.expectValue stack) ('\x7b' :: ((writeText "kind").toList ++
              ':' :: ((writeText kind.name).toList ++ afterKind))) := by
            have key : (writeText "kind").toList = ['"', 'k', 'i', 'n', 'd', '"'] := rfl
            simp [toJson_eq, key, afterKind, afterChildren, afterText, afterLine]
        _ = readFrom (.firstKey stack) ((writeText "kind").toList ++
              ':' :: ((writeText kind.name).toList ++ afterKind)) := readFrom_step rfl rfl
        _ = readFrom (.expectColon [] (some "kind") stack)
              (':' :: ((writeText kind.name).toList ++ afterKind)) :=
            readFrom_step (Lexeme.next?_writeText _ _) rfl
        _ = readFrom (.expectValue (.entry [] (some "kind") :: stack))
              ((writeText kind.name).toList ++ afterKind) := readFrom_step rfl rfl
        _ = readFrom (.afterMember [.named (some "kind") (textValue kind.name)] stack)
              afterKind := reads_text kind.name afterKind _
        _ = readFrom (Reading.deliver (.object _ true) stack) rest := by
            rw [readFrom_childrenJson ih, readFrom_writeField (by rfl) text
                fun content => reads_text content afterText,
              readFrom_writeField (by rfl) line fun word => reads_word word lineStops,
              readFrom_writeField (by rfl) column fun word => reads_word word closes]
            exact readFrom_step rfl rfl
        _ = _ := by simp [value_eq]

theorem ofText_toJson (raw : RawNode) : Document.ofText raw.toJson = ⟨raw.value, true⟩ := by
  have read := raw.reads_toJson [] []
  rw [List.append_nil] at read
  rw [Document.ofText, read, readFrom.eq_def]
  rfl

end RawNode

/-! ## Reading the value -/

theorem NodeField.ofName?_name (field : NodeField) : ofName? field.name = some field := by
  cases field <;> rfl

namespace NodeReading

open RawNode (textValue wordValue fieldMembers slotValues childrenMembers)

theorem run_object (members : List Member) (intact : Bool) (stack : List OpenList) :
    run (.readNode (.object members intact)) stack =
      run (.readFields (.object {} members intact)) stack := by
  conv_lhs => rw [run]

theorem run_readFields {source : NodeSource} {next : NodeReading}
    (advanced : readField source = .ok next) (stack : List OpenList) :
    run (.readFields source) stack = run next stack := by
  conv_lhs => rw [run]
  split
  · rename_i other otherAdvanced
    rw [advanced] at otherAdvanced
    cases otherAdvanced
    rfl
  · rename_i fault failed
    simp [advanced] at failed

/-- The value in a slot is read as what stands in this slot. -/
def TakesSlot (slot : Option RawNode) (value : Value) : Prop :=
  match slot with
  | none => value = .null
  | some raw => value ≠ .null ∧ ∀ stack, run (.readNode value) stack = run (.complete raw) stack

theorem run_openSlot {value : Value} (notNull : value ≠ .null) (owner : NodeSource)
    (done : List (Option RawNode)) (rest : List Value) (stack : List OpenList) :
    run (.readChildren ⟨owner, done, value :: rest, true⟩) stack =
      run (.readNode value) (⟨owner, done, rest, true⟩ :: stack) := by
  cases value with
  | null => exact absurd rfl notNull
  | _ => rw [run.eq_def]

theorem run_listed {slots : List (Option RawNode × Value)}
    (taken : ∀ slot ∈ slots, TakesSlot slot.1 slot.2) (owner : NodeSource)
    (done : List (Option RawNode)) (stack : List OpenList) :
    run (.readChildren ⟨owner, done, slots.map Prod.snd, true⟩) stack =
      run (.readFields (owner.setChildren (done.reverse ++ slots.map Prod.fst))) stack := by
  induction slots generalizing done with
  | nil =>
      conv_lhs => rw [List.map_nil, run, if_pos rfl]
      rw [List.map_nil, List.append_nil]
  | cons slot slots ih =>
      obtain ⟨here, later⟩ := List.forall_mem_cons.mp taken
      obtain ⟨_ | raw, value⟩ := slot
      · cases here
        conv_lhs => rw [List.map_cons, run, ih later]
        simp
      · obtain ⟨notNull, read⟩ := here
        rw [List.map_cons, run_openSlot notNull, read]
        conv_lhs => rw [run, ih later]
        simp

theorem run_slots {slots : List (Option RawNode)}
    (nodes : ∀ raw, some raw ∈ slots → ∀ stack,
      run (.readNode raw.value) stack = run (.complete raw) stack)
    (owner : NodeSource) (done : List (Option RawNode)) (stack : List OpenList) :
    run (.readChildren ⟨owner, done, slotValues slots, true⟩) stack =
      run (.readFields (owner.setChildren (done.reverse ++ slots))) stack := by
  have taken : ∀ slot ∈ slots.map fun slot => (slot, (slot.map RawNode.value).getD .null),
      TakesSlot slot.1 slot.2 := by
    intro slot member
    obtain ⟨_ | raw, isSlot, rfl⟩ := List.mem_map.mp member
    · rfl
    · obtain ⟨kind, children, text, line, column⟩ := raw
      exact ⟨by simp [RawNode.value_eq], nodes _ isSlot⟩
  have read := run_listed taken owner done stack
  simpa [RawNode.slotValues_eq_map, Function.comp_def] using read

theorem readField_named {draft : NodeDraft} {field : NodeField}
    (unread : draft.has field = false) (value : Value) (rest : List Member) :
    readField (.object draft (.named (some field.name) value :: rest) true) =
      startField draft field value fun draft => .object draft rest true := by
  simp [readField, NodeField.ofName?_name, unread]

theorem startField_assign {draft assigned : NodeDraft} {field : NodeField} {value : Value}
    (other : field ≠ .children) (read : draft.assign field value = .ok assigned)
    (source : NodeDraft → NodeSource) :
    startField draft field value source = .ok (.readFields (source assigned)) := by
  cases field with
  | children => exact absurd rfl other
  | kind => simp [startField, read, Except.map]
  | text => simp [startField, read, Except.map]
  | line => simp [startField, read, Except.map]
  | column => simp [startField, read, Except.map]

/-- A field that may be absent is read where it is written, and stays unread
where it is left out. -/
theorem run_fieldMembers {α : Type} (field : NodeField) (valueOf : α → Value)
    (set : Option (Option α) → NodeDraft) {draft : NodeDraft} (kept : set none = draft)
    (other : field ≠ .children) (unread : draft.has field = false)
    (read : ∀ content, draft.assign field (valueOf content) = .ok (set (some (some content))))
    (item : Option α) (rest : List Member) (stack : List OpenList) :
    run (.readFields (.object draft
        (fieldMembers field.name (item.map valueOf) ++ rest) true)) stack =
      run (.readFields (.object (set (item.map some)) rest true)) stack := by
  cases item with
  | none => simp [fieldMembers, kept]
  | some content =>
      refine run_readFields ?_ stack
      have assigned := startField_assign other (read content) fun draft =>
        NodeSource.object draft rest true
      simpa [fieldMembers, readField_named unread] using assigned

theorem run_childrenMembers {children : List (Option RawNode)}
    (nodes : ∀ raw, some raw ∈ children → ∀ stack,
      run (.readNode raw.value) stack = run (.complete raw) stack)
    {draft : NodeDraft} (unread : draft.children = none) (rest : List Member)
    (stack : List OpenList) :
    ∃ read : Option (List (Option RawNode)), read.getD [] = children ∧
      run (.readFields (.object draft (childrenMembers children ++ rest) true)) stack =
        run (.readFields (.object { draft with children := read } rest true)) stack := by
  cases children with
  | nil =>
      refine ⟨none, rfl, ?_⟩
      rw [← unread]
      rfl
  | cons slot slots =>
      refine ⟨some (slot :: slots), rfl, ?_⟩
      have noChildren : draft.has .children = false := by simp [NodeDraft.has, unread]
      have opened := readField_named noChildren (.array (slotValues (slot :: slots)) true) rest
      rw [childrenMembers]
      exact (run_readFields opened stack).trans (run_slots nodes _ [] stack)

theorem readOptional_wordValue (word : UInt32) :
    (wordValue word).readOptional Value.readWord = .ok (some word) := by
  have read := Value.readWord_digitsOf word
  simp [Value.readOptional, wordValue, read, Except.map]

theorem getD_map_some {α : Type} (item : Option α) : (item.map some).getD none = item := by
  cases item <;> rfl

theorem run_fields {children : List (Option RawNode)}
    (nodes : ∀ raw, some raw ∈ children → ∀ stack,
      run (.readNode raw.value) stack = run (.complete raw) stack)
    (kind : Kind) (text : Option String) (line column : Option UInt32)
    (stack : List OpenList) :
    run (.readFields (.object { kind := some kind } (childrenMembers children ++
        (fieldMembers "text" (text.map textValue) ++ (fieldMembers "line" (line.map wordValue) ++
          (fieldMembers "column" (column.map wordValue) ++ [])))) true)) stack =
      run (.complete (.mk kind children text line column)) stack := by
  obtain ⟨read, isChildren, childrenRead⟩ := run_childrenMembers nodes
    (show NodeDraft.children { kind := some kind } = none from rfl) _ stack
  have textRead := run_fieldMembers .text textValue
    (fun item => { kind := some kind, children := read, text := item })
    rfl (by decide) rfl (fun content => rfl) text
  have lineRead := run_fieldMembers .line wordValue
    (fun item => { kind := some kind, children := read, text := text.map some, line := item })
    rfl (by decide) rfl (fun word => by rw [NodeDraft.assign, readOptional_wordValue]; rfl) line
  have columnRead := run_fieldMembers .column wordValue
    (fun item => ⟨some kind, read, text.map some, line.map some, item⟩)
    rfl (by decide) rfl (fun word => by rw [NodeDraft.assign, readOptional_wordValue]; rfl) column
  have ended : readField (.object ⟨some kind, read, text.map some, line.map some,
      column.map some⟩ [] true) = .ok (.complete (.mk kind children text line column)) := by
    simp [readField, NodeDraft.node?, isChildren, getD_map_some]
  calc
    _ = run (.readFields (.object ⟨some kind, read, none, none, none⟩ _ true)) stack :=
        childrenRead
    _ = run (.readFields (.object ⟨some kind, read, text.map some, none, none⟩ _ true)) stack :=
        textRead _ stack
    _ = run (.readFields (.object ⟨some kind, read, text.map some, line.map some, none⟩
          _ true)) stack := lineRead _ stack
    _ = run (.readFields (.object ⟨some kind, read, text.map some, line.map some,
          column.map some⟩ [] true)) stack := columnRead _ stack
    _ = _ := run_readFields ended stack

/-- The value of a node is read as this node, whatever lists are open around
it. -/
theorem run_value (raw : RawNode) (stack : List OpenList) :
    run (.readNode raw.value) stack = run (.complete raw) stack := by
  induction raw using RawNode.induction generalizing stack with
  | mk kind children text line column ih =>
      have kindRead : NodeDraft.assign {} .kind (textValue kind.name) =
          .ok { kind := some kind } := by
        simp [NodeDraft.assign, textValue, Value.readText, Kind.ofName, Kind.ofName?_name,
          Except.map]
      have started := fun rest => run_readFields ((readField_named rfl _ rest).trans
        (startField_assign (by decide) kindRead fun draft => .object draft rest true)) stack
      rw [RawNode.value_eq, run_object]
      refine (started _).trans ?_
      rw [← run_fields ih]
      simp

end NodeReading

namespace RawNode

theorem ofJson_toJson (raw : RawNode) : ofJson raw.toJson = .ok raw := by
  have read := NodeReading.run_value raw []
  rw [ofJson, readDocument, ofText_toJson, ofValue, read, NodeReading.run]
  rfl

end RawNode

end TreeLint
