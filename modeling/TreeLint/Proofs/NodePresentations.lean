import TreeLint.Proofs.JsonSpelling

/-!
# The presentations of a node

A node can be presented by an object or by an array, it can leave out or write out
what it does not have, and an object can hold further members and any order of
them.  Its children may be presented in other ways than the node itself.  Reading
any spelling of any presentation gives the node.
-/

namespace TreeLint

open Json

/-- What a JSON value gives for the fields of a node: an object by name, with each field
at most once and any complete values elsewhere, an array by position. -/
inductive Arranges (given : NodeField → Option Value) : Value → Prop
  | object (entries : List (String × Value))
      (single : ∀ field : NodeField, (entries.map Prod.fst).count field.name ≤ 1)
      (complete : ∀ entry ∈ entries, entry.2.intact = true)
      (held : ∀ field value, given field = some value ↔ (field.name, value) ∈ entries) :
      Arranges given (.object (entries.map fun entry => .named (some entry.1) entry.2) true)
  | row {items : List Value} (short : items.length ≤ NodeField.all.length)
      (held : ∀ field value, given field = some value ↔ (field, value) ∈ NodeField.all.zip items) :
      Arranges given (.array items true)

/-- The names of a kind: its own, and for the unknown kind all that belong to no kind. -/
def NamesKind (name : String) (kind : Kind) : Prop :=
  name = kind.name ∨ kind = .unknown ∧ ∀ other : Kind, other.name ≠ name

/-- A field that may be absent holds its value, or is null or left out. -/
def HoldsOptional {α : Type} (valueOf : α → Value) (item : Option α) (given : Option Value) :
    Prop :=
  given = item.map valueOf ∨ item = none ∧ given = some .null

open RawNode (textValue wordValue)

/-- The JSON values that present a node.  Each of its children is presented in a way of
its own. -/
inductive Presents : RawNode → Value → Prop
  | node {given : NodeField → Option Value} {value : Value} {name : String} {kind : Kind}
      {text : Option String} {line column : Option UInt32}
      (slots : List (Option RawNode × Value)) (arranged : Arranges given value)
      (named : given .kind = some (textValue name)) (isKind : NamesKind name kind)
      (listed : given .children = some (.array (slots.map Prod.snd) true) ∨
        slots = [] ∧ given .children = none)
      (absent : ∀ slot ∈ slots, slot.1 = none → slot.2 = .null)
      (present : ∀ slot ∈ slots, ∀ raw, slot.1 = some raw → Presents raw slot.2)
      (holdsText : HoldsOptional textValue text (given .text))
      (holdsLine : HoldsOptional wordValue line (given .line))
      (holdsColumn : HoldsOptional wordValue column (given .column)) :
      Presents (.mk kind (slots.map Prod.fst) text line column) value

theorem Presents.ne_null {raw : RawNode} {value : Value} (presented : Presents raw value) :
    value ≠ .null := by
  obtain ⟨_, arranged⟩ := presented
  cases arranged <;> simp

theorem eq_none_of_held {α : Type} {valueOf : α → Value} {item : Option α} {given : Option Value}
    (held : HoldsOptional valueOf item given) (missing : given.isSome = false) : item = none := by
  rcases held with rfl | ⟨rfl, -⟩
  · simpa using missing
  · rfl

/-! ## Drafts -/

/-- The draft of a node from which the fields seen so far have been read. -/
def RawNode.draft (raw : RawNode) (seen : NodeField → Bool) : NodeDraft where
  kind := if seen .kind then some raw.kind else none
  children := if seen .children then some raw.children else none
  text := if seen .text then some raw.text else none
  line := if seen .line then some raw.line else none
  column := if seen .column then some raw.column else none

/-- The fields seen, with one more. -/
def alsoSeen (field : NodeField) (seen : NodeField → Bool) (other : NodeField) : Bool :=
  other == field || seen other

theorem alsoSeen_eq_true {field other : NodeField} {seen : NodeField → Bool} :
    alsoSeen field seen other = true ↔ other = field ∨ seen other = true := by
  rw [alsoSeen, Bool.or_eq_true, beq_iff_eq]

@[simp]
theorem RawNode.has_draft (raw : RawNode) (seen : NodeField → Bool) (field : NodeField) :
    (raw.draft seen).has field = seen field := by
  cases field <;> simp only [draft, NodeDraft.has] <;> split <;> simp_all

namespace NodeReading

/-- From a value, the given field of the node is read. -/
def Takes (raw : RawNode) (field : NodeField) (value : Value) : Prop :=
  ∀ (seen : NodeField → Bool) (source : NodeDraft → NodeSource) (stack : List OpenList),
    (∀ draft children, (source draft).setChildren children =
      source { draft with children := some children }) →
    ∃ next, startField (raw.draft seen) field value source = .ok next ∧
      run next stack = run (.readFields (source (raw.draft (alsoSeen field seen)))) stack

theorem takes_of_assign {raw : RawNode} {field : NodeField} {value : Value}
    (other : field ≠ .children)
    (assigned : ∀ seen,
      (raw.draft seen).assign field value = .ok (raw.draft (alsoSeen field seen))) :
    Takes raw field value := by
  intro seen source stack _
  exact ⟨_, startField_assign other (assigned seen) source, rfl⟩

theorem takes_kind {raw : RawNode} {name : String} (named : NamesKind name raw.kind) :
    Takes raw .kind (textValue name) := by
  apply takes_of_assign (by decide)
  intro seen
  have recovered : Kind.ofName name = raw.kind := by
    rcases named with rfl | ⟨unknown, other⟩
    · simp [Kind.ofName, Kind.ofName?_name]
    · have absent : Kind.ofName? name = none := by
        simp [Kind.ofName?, other]
      rw [Kind.ofName, absent, unknown]
      rfl
  simp [NodeDraft.assign, textValue, Value.readText, Except.map, recovered, RawNode.draft, alsoSeen]

theorem readOptional_held {α : Type} {valueOf : α → Value} {read : Value → Except Fault α}
    (reads : ∀ content, (valueOf content).readOptional read = .ok (some content))
    {item : Option α} {value : Value} (held : HoldsOptional valueOf item (some value)) :
    value.readOptional read = .ok item := by
  rcases held with same | ⟨rfl, null⟩
  · cases item with
    | none => cases same
    | some content =>
        cases same
        exact reads content
  · cases null
    rfl

theorem takes_text {raw : RawNode} {value : Value}
    (held : HoldsOptional textValue raw.text (some value)) : Takes raw .text value := by
  have read : value.readOptional Value.readText = .ok raw.text :=
    readOptional_held (fun content => rfl) held
  apply takes_of_assign (by decide)
  intro seen
  simp [NodeDraft.assign, read, Except.map, RawNode.draft, alsoSeen]

theorem takes_line {raw : RawNode} {value : Value}
    (held : HoldsOptional wordValue raw.line (some value)) : Takes raw .line value := by
  have read := readOptional_held readOptional_wordValue held
  apply takes_of_assign (by decide)
  intro seen
  simp [NodeDraft.assign, read, Except.map, RawNode.draft, alsoSeen]

theorem takes_column {raw : RawNode} {value : Value}
    (held : HoldsOptional wordValue raw.column (some value)) : Takes raw .column value := by
  have read := readOptional_held readOptional_wordValue held
  apply takes_of_assign (by decide)
  intro seen
  simp [NodeDraft.assign, read, Except.map, RawNode.draft, alsoSeen]

theorem takes_children {raw : RawNode} {slots : List (Option RawNode × Value)}
    (children : raw.children = slots.map Prod.fst)
    (taken : ∀ slot ∈ slots, TakesSlot slot.1 slot.2) :
    Takes raw .children (.array (slots.map Prod.snd) true) := by
  intro seen source stack commutes
  refine ⟨_, rfl, ?_⟩
  rw [run_listed taken, commutes, List.reverse_nil, List.nil_append, ← children]
  rfl

/-! ## Fields -/

theorem name_of_ofName? {key : String} {field : NodeField}
    (found : NodeField.ofName? key = some field) : key = field.name := by
  have same := List.find?_some found
  exact (beq_iff_eq.mp same).symm

theorem name_inj {field other : NodeField} : other.name = field.name ↔ other = field := by
  constructor
  · intro same
    have found := other.ofName?_name
    rw [same, field.ofName?_name] at found
    exact (Option.some.inj found).symm
  · rintro rfl
    rfl

theorem run_foreignEntry {key : String} (foreign : NodeField.ofName? key = none) {value : Value}
    (complete : value.intact = true) (raw : RawNode) (seen : NodeField → Bool)
    (rest : List Member) (stack : List OpenList) :
    run (.readFields (.object (raw.draft seen) (.named (some key) value :: rest) true)) stack =
      run (.readFields (.object (raw.draft seen) rest true)) stack := by
  apply run_readFields
  simp [readField, foreign, complete]

theorem run_namedEntry {raw : RawNode} {field : NodeField} {value : Value}
    (taken : Takes raw field value) {seen : NodeField → Bool} (unseen : seen field = false)
    (rest : List Member) (stack : List OpenList) :
    run (.readFields (.object (raw.draft seen) (.named (some field.name) value :: rest) true))
        stack =
      run (.readFields (.object (raw.draft (alsoSeen field seen)) rest true)) stack := by
  have unread : (raw.draft seen).has field = false := by rw [RawNode.has_draft, unseen]
  obtain ⟨next, started, ran⟩ := taken seen (.object · rest true) stack fun _ _ => rfl
  rw [run_readFields ((readField_named unread value rest).trans started), ran]

theorem run_item {raw : RawNode} {field : NodeField} {value : Value}
    (taken : Takes raw field value) (seen : NodeField → Bool) (fields : List NodeField)
    (items : List Value) (stack : List OpenList) :
    run (.readFields (.row (raw.draft seen) (field :: fields) (value :: items) true)) stack =
      run (.readFields (.row (raw.draft (alsoSeen field seen)) fields items true)) stack := by
  obtain ⟨next, started, ran⟩ := taken seen (.row · fields items true) stack fun _ _ => rfl
  have advanced : readField (.row (raw.draft seen) (field :: fields) (value :: items) true) =
      .ok next := started
  rw [run_readFields advanced, ran]

theorem run_entries {raw : RawNode} {entries : List (String × Value)}
    (single : ∀ field : NodeField, (entries.map Prod.fst).count field.name ≤ 1)
    (complete : ∀ entry ∈ entries, entry.2.intact = true)
    (taken : ∀ field value, (field.name, value) ∈ entries → Takes raw field value)
    {seen : NodeField → Bool}
    (unseen : ∀ field value, (field.name, value) ∈ entries → seen field = false)
    (stack : List OpenList) :
    ∃ seenAll : NodeField → Bool,
      (∀ field, seenAll field = true ↔
        seen field = true ∨ ∃ value, (field.name, value) ∈ entries) ∧
      run (.readFields (.object (raw.draft seen)
          (entries.map fun entry => .named (some entry.1) entry.2) true)) stack =
        run (.readFields (.object (raw.draft seenAll) [] true)) stack := by
  -- The draft has exactly the fields seen so far, so a field in a later entry is still unread.
  induction entries generalizing seen with
  | nil => exact ⟨seen, by simp, rfl⟩
  | cons entry entries ih =>
      obtain ⟨key, value⟩ := entry
      have singleLater : ∀ field : NodeField, (entries.map Prod.fst).count field.name ≤ 1 :=
        fun field => Nat.le_trans List.count_le_count_cons (single field)
      obtain ⟨completeHere, completeLater⟩ := List.forall_mem_cons.mp complete
      have takenLater := fun field value member =>
        taken field value (List.mem_cons_of_mem _ member)
      have unseenLater := fun field value member =>
        unseen field value (List.mem_cons_of_mem _ member)
      rw [List.map_cons]
      cases found : NodeField.ofName? key with
      | none =>
          have foreign : ∀ field : NodeField, field.name ≠ key := by
            rintro field rfl
            simp [field.ofName?_name] at found
          obtain ⟨seenAll, isSeen, ran⟩ := ih singleLater completeLater takenLater unseenLater
          refine ⟨seenAll, ?_, (run_foreignEntry found completeHere raw seen _ stack).trans ran⟩
          simpa [foreign] using isSeen
      | some field =>
          obtain rfl := name_of_ofName? found
          have others : ∀ other value, (other.name, value) ∈ entries →
              alsoSeen field seen other = false := by
            intro other value member
            have distinct : other ≠ field := by
              rintro rfl
              have once := single other
              rw [List.map_cons, List.count_cons_self] at once
              have listed : 0 < (entries.map Prod.fst).count other.name :=
                List.count_pos_iff.mpr (List.mem_map.mpr ⟨_, member, rfl⟩)
              omega
            rw [alsoSeen, beq_false_of_ne distinct, Bool.false_or]
            exact unseenLater other value member
          obtain ⟨seenAll, isSeen, ran⟩ := ih singleLater completeLater takenLater others
          have here := run_namedEntry (taken field value List.mem_cons_self)
            (unseen field value List.mem_cons_self)
            (entries.map fun entry => .named (some entry.1) entry.2) stack
          refine ⟨seenAll, ?_, here.trans ran⟩
          intro other
          simp only [isSeen, alsoSeen_eq_true, List.mem_cons, Prod.mk.injEq, name_inj, exists_or,
            exists_and_left, exists_eq, and_true]
          rw [or_assoc, or_left_comm]

theorem run_items {raw : RawNode} {fields : List NodeField} {items : List Value}
    (short : items.length ≤ fields.length)
    (taken : ∀ field value, (field, value) ∈ fields.zip items → Takes raw field value)
    (seen : NodeField → Bool) (stack : List OpenList) :
    ∃ (seenAll : NodeField → Bool) (left : List NodeField),
      (∀ field, seenAll field = true ↔
        seen field = true ∨ ∃ value, (field, value) ∈ fields.zip items) ∧
      run (.readFields (.row (raw.draft seen) fields items true)) stack =
        run (.readFields (.row (raw.draft seenAll) left [] true)) stack := by
  induction items generalizing fields seen with
  | nil => exact ⟨seen, fields, by simp, rfl⟩
  | cons value items ih =>
      cases fields with
      | nil => simp at short
      | cons field fields =>
          obtain ⟨seenAll, left, isSeen, ran⟩ := ih (Nat.le_of_succ_le_succ short)
            (fun field value member => taken field value (List.mem_cons_of_mem _ member))
            (alsoSeen field seen)
          have here := run_item (taken field value List.mem_cons_self) seen fields items stack
          refine ⟨seenAll, left, ?_, here.trans ran⟩
          intro other
          simp only [isSeen, alsoSeen_eq_true, List.zip_cons_cons, List.mem_cons, Prod.mk.injEq,
            exists_or, exists_and_left, exists_eq, and_true]
          rw [or_assoc, or_left_comm]

theorem node?_draft {raw : RawNode} {seen : NodeField → Bool} (kind : seen .kind = true)
    (children : seen .children = false → raw.children = [])
    (text : seen .text = false → raw.text = none) (line : seen .line = false → raw.line = none)
    (column : seen .column = false → raw.column = none) :
    (raw.draft seen).node? = some raw := by
  have filled : ∀ {α : Type} {item missing : α} {shown : Bool},
      (shown = false → item = missing) →
      (if shown = true then some item else none).getD missing = item := by
    intro α item missing shown hidden
    cases shown with
    | true => rfl
    | false => exact (hidden rfl).symm
  rw [RawNode.draft, NodeDraft.node?, if_pos kind, filled children, filled text, filled line,
    filled column]
  cases raw
  rfl

theorem seen_eq_isSome {given : NodeField → Option Value} {places : NodeField → Value → Prop}
    (held : ∀ field value, given field = some value ↔ places field value)
    {seen : NodeField → Bool}
    (isSeen : ∀ field, seen field = true ↔ false = true ∨ ∃ value, places field value) :
    seen = fun field => (given field).isSome := by
  funext field
  rw [Bool.eq_iff_iff, isSeen, Option.isSome_iff_exists]
  simp [held]

/-- Reading the arranged fields of a node completes it. -/
theorem run_arranged {given : NodeField → Option Value} {value : Value}
    (arranged : Arranges given value) {raw : RawNode}
    (taken : ∀ field value, given field = some value → Takes raw field value)
    (ended : (raw.draft fun field => (given field).isSome).node? = some raw)
    (stack : List OpenList) : run (.readNode value) stack = run (.complete raw) stack := by
  have unread : ({} : NodeDraft) = raw.draft fun _ => false := rfl
  cases arranged with
  | object entries single complete held =>
      obtain ⟨seen, isSeen, ran⟩ := run_entries single complete
        (fun field value member => taken field value ((held field value).mpr member))
        (fun field value member => rfl) stack
      rw [run_object, unread, ran, seen_eq_isSome held isSeen]
      apply run_readFields
      simp [readField, ended]
  | row short held =>
      obtain ⟨seen, left, isSeen, ran⟩ := run_items short
        (fun field value member => taken field value ((held field value).mpr member))
        (fun _ => false) stack
      conv_lhs => rw [run, unread, ran, seen_eq_isSome held isSeen]
      apply run_readFields
      simp [readField, ended]

/-- A presentation of a node is read as this node, whatever lists are open around it. -/
theorem run_presented {raw : RawNode} {value : Value} (presented : Presents raw value)
    (stack : List OpenList) : run (.readNode value) stack = run (.complete raw) stack := by
  induction presented generalizing stack with
  | @node given value name kind text line column slots arranged named isKind listed absent
      present holdsText holdsLine holdsColumn ih =>
      have slotsTaken : ∀ slot ∈ slots, TakesSlot slot.1 slot.2 := by
        rintro ⟨_ | raw, value⟩ member
        · exact absent _ member rfl
        · exact ⟨(present _ member raw rfl).ne_null, ih _ member raw rfl⟩
      apply run_arranged arranged
      · intro field value found
        cases field with
        | kind =>
            cases named.symm.trans found
            exact takes_kind isKind
        | children =>
            rcases listed with listed | ⟨-, missing⟩
            · cases listed.symm.trans found
              exact takes_children rfl slotsTaken
            · simp [missing] at found
        | text => exact takes_text (found ▸ holdsText)
        | line => exact takes_line (found ▸ holdsLine)
        | column => exact takes_column (found ▸ holdsColumn)
      · apply node?_draft
        · simp [named]
        · intro missing
          rcases listed with listed | ⟨rfl, -⟩
          · simp [listed] at missing
          · rfl
        · exact eq_none_of_held holdsText
        · exact eq_none_of_held holdsLine
        · exact eq_none_of_held holdsColumn

end NodeReading

/-- Any text that spells a presentation of a node is decoded to this node, and to the tree
that the node is frozen to. -/
theorem presentations_decode_alike {raw : RawNode} {value : Value} {text : String}
    (presented : Presents raw value) (spelled : value.SpelledBy text) :
    RawNode.ofJson text = .ok raw ∧ Tree.ofJson text = raw.toTree := by
  have decoded : RawNode.ofJson text = .ok raw := by
    rw [RawNode.ofJson, readDocument, ofText_spelled spelled, RawNode.ofValue,
      NodeReading.run_presented presented, NodeReading.run]
    rfl
  refine ⟨decoded, ?_⟩
  rw [Tree.ofJson, decoded]

/-! ## A presentation with many turns -/

/-- A block in array form.  Its second slot holds an object whose key `kind` is written with
an escape, behind a foreign member with a surrogate that stays alone. -/
def awkwardText : String :=
  "[\"block\",[null,\x7b\"x\":[\"\\uD800\",1e9],\"line\":null,\"\\u006Bind\" : \"y\"\x7d]]\n"

def awkwardLexemes : List Lexeme :=
  [.openBracket, .text (some "block"), .comma, .openBracket, .null, .comma, .openBrace,
    .text (some "x"), .colon, .openBracket, .text none, .comma,
    .number ⟨false, [1], [], some (false, [9])⟩, .closeBracket, .comma, .text (some "line"),
    .colon, .null, .comma, .text (some "kind"), .colon, .text (some "y"), .closeBrace,
    .closeBracket, .closeBracket]

def awkwardChild : Value :=
  .object [.named (some "x")
      (.array [.text none, .number ⟨false, [1], [], some (false, [9])⟩] true),
    .named (some "line") .null, .named (some "kind") (textValue "y")] true

def awkwardValue : Value :=
  .array [textValue "block", .array [.null, awkwardChild] true] true

theorem spells_awkwardText : Spells awkwardLexemes awkwardText.toList := by
  have tight : Blanks [] := by simp [Blanks]
  have space : Blanks [' '] := by simp [Blanks]
  have newline : Blanks ['\n'] := by simp [Blanks]
  have openBracket : SpellsLexeme .openBracket "[".toList := .fixed (by decide)
  have closeBracket : SpellsLexeme .closeBracket "]".toList := .fixed (by decide)
  have openBrace : SpellsLexeme .openBrace "\x7b".toList := .fixed (by decide)
  have closeBrace : SpellsLexeme .closeBrace "\x7d".toList := .fixed (by decide)
  have comma : SpellsLexeme .comma ",".toList := .fixed (by decide)
  have colon : SpellsLexeme .colon ":".toList := .fixed (by decide)
  have null : SpellsLexeme .null "null".toList := .fixed (by decide)
  have number : SpellsLexeme (.number ⟨false, [1], [], some (false, [9])⟩) "1e9".toList :=
    .number (.written false ⟨by simp, by simp⟩ (by simp) .absent
      (.unsigned (.inl rfl) ⟨by simp, by simp⟩))
  have hex : ∀ value < 16, SpellsDigit value (hexChar value).toUpper :=
    fun value small => ⟨small, .inr rfl⟩
  have surrogate : SpellsUnit 0xD800 "\\uD800".toList :=
    .digits (hex 13 (by decide)) (hex 8 (by decide)) (hex 0 (by decide)) (hex 0 (by decide))
  have letter : SpellsUnit 'k'.toNat "\\u006B".toList :=
    .digits (hex 0 (by decide)) (hex 0 (by decide)) (hex 6 (by decide)) (hex 11 (by decide))
  have lone : SpellsLexeme (.text none) "\"\\uD800\"".toList := by
    have pieces : ∀ piece ∈ [(0xD800, "\\uD800".toList)], SpellsUnit piece.1 piece.2 := by
      simpa using surrogate
    exact .text pieces
  have kind : SpellsLexeme (.text (some "kind")) "\"\\u006Bind\"".toList := by
    have pieces : ∀ piece ∈ [('k', "\\u006B".toList), ('i', ['i']), ('n', ['n']), ('d', ['d'])],
        SpellsUnit piece.1.toNat piece.2 := by
      simp only [List.mem_cons, List.not_mem_nil, or_false, forall_eq_or_imp, forall_eq]
      exact ⟨letter, .plain (by decide) (by decide) (by decide),
        .plain (by decide) (by decide) (by decide), .plain (by decide) (by decide) (by decide)⟩
    exact spells_characters pieces
  have kindOn := Spells.lexeme tight comma <| .lexeme tight kind <| .lexeme space colon <|
    .lexeme space (spells_plain "y" (by simp)) <| .lexeme tight closeBrace <|
    .lexeme tight closeBracket <| .lexeme tight closeBracket (.ended newline)
  have lineOn := Spells.lexeme tight comma <| .lexeme tight (spells_plain "line" (by simp)) <|
    .lexeme tight colon <| .lexeme tight null kindOn
  have childOn := Spells.lexeme tight openBrace <| .lexeme tight (spells_plain "x" (by simp)) <|
    .lexeme tight colon <| .lexeme tight openBracket <| .lexeme tight lone <|
    .lexeme tight comma <| .lexeme tight number <| .lexeme tight closeBracket lineOn
  have whole := Spells.lexeme tight openBracket <|
    .lexeme tight (spells_plain "block" (by simp)) <| .lexeme tight comma <|
    .lexeme tight openBracket <| .lexeme tight null <| .lexeme tight comma childOn
  exact whole

theorem madeOf_awkwardLexemes : awkwardValue.MadeOf awkwardLexemes := by
  have foreign := Value.MadeOf.array [(_, _), (_, _)] (List.forall_mem_cons.mpr ⟨.text none,
    List.forall_mem_cons.mpr ⟨.number ⟨false, [1], [], some (false, [9])⟩, List.forall_mem_nil _⟩⟩)
  have child := Value.MadeOf.object [(some "x", _, _), (some "line", _, _), (some "kind", _, _)]
    (List.forall_mem_cons.mpr ⟨foreign, List.forall_mem_cons.mpr ⟨.null,
      List.forall_mem_cons.mpr ⟨.text (some "y"), List.forall_mem_nil _⟩⟩⟩)
  have slots := Value.MadeOf.array [(_, _), (_, _)] (List.forall_mem_cons.mpr ⟨.null,
    List.forall_mem_cons.mpr ⟨child, List.forall_mem_nil _⟩⟩)
  exact Value.MadeOf.array [(_, _), (_, _)] (List.forall_mem_cons.mpr ⟨.text (some "block"),
    List.forall_mem_cons.mpr ⟨slots, List.forall_mem_nil _⟩⟩)

theorem presents_awkwardChild : Presents (.node .unknown []) awkwardChild := by
  have unknown : NamesKind "y" .unknown := by
    refine .inr ⟨rfl, ?_⟩
    intro other same
    have foreign : Kind.ofName? "y" = none := by decide
    simp [← same, other.ofName?_name] at foreign
  have arranged : Arranges
      (fun | .kind => some (textValue "y") | .line => some .null | _ => none) awkwardChild := by
    apply Arranges.object [("x", _), ("line", _), ("kind", _)]
    · intro field
      cases field <;> decide
    · simp [Value.intact]
    · intro field value
      cases field <;> simp [NodeField.name, textValue, eq_comm]
  exact .node [] arranged rfl unknown (.inr ⟨rfl, rfl⟩) (by simp) (by simp) (.inl rfl)
    (.inr ⟨rfl, rfl⟩) (.inl rfl)

theorem presents_awkwardValue :
    Presents (.node .block [none, some (.node .unknown [])]) awkwardValue := by
  have arranged : Arranges
      (fun
        | .kind => some (textValue "block")
        | .children => some (.array [.null, awkwardChild] true)
        | _ => none) awkwardValue := by
    apply Arranges.row
    · decide
    · intro field value
      cases field <;> simp [NodeField.all, eq_comm]
  exact .node [(none, .null), (some (.node .unknown []), awkwardChild)] arranged rfl (.inl rfl)
    (.inl rfl) (by simp) (by simp [presents_awkwardChild]) (.inl rfl) (.inl rfl) (.inl rfl)

theorem awkwardText_decoded :
    awkwardValue.SpelledBy awkwardText ∧
      RawNode.ofJson awkwardText = .ok (.node .block [none, some (.node .unknown [])]) ∧
      Tree.ofJson awkwardText =
        (RawNode.node .block [none, some (.node .unknown [])]).toTree := by
  have spelled : awkwardValue.SpelledBy awkwardText :=
    ⟨awkwardLexemes, madeOf_awkwardLexemes, spells_awkwardText⟩
  exact ⟨spelled, presentations_decode_alike presents_awkwardValue spelled⟩

end TreeLint
