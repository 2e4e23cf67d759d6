import TreeLint.Json.Lexeme

/-!
# JSON values as far as the text makes sense

Text is read into a value by a machine that keeps the arrays and objects still
open on an explicit stack, so nesting has no limit.  Where the text breaks,
reading stops and everything open is closed as it stands and marked as not
intact.  A reader that goes through such a value from left to right therefore
meets its own objections and the break of the text in the order of the text,
and the first of them decides.
-/

namespace TreeLint

namespace Json

mutual

/-- A JSON value, read up to the first fault of its text. -/
inductive Value where
  | null
  | boolean (value : Bool)
  | number (numeral : Numeral)
  | text (content : Option String)
  /-- The items read, and whether the array was closed. -/
  | array (items : List Value) (intact : Bool)
  /-- The members read, and whether the object was closed. -/
  | object (members : List Member) (intact : Bool)
  /-- The text breaks where a value has to stand. -/
  | broken

/-- One member of an object. -/
inductive Member where
  /-- A key, undecodable at times, with its value. -/
  | named (key : Option String) (value : Value)

end

instance : Inhabited Value := ⟨.broken⟩

/-- Whether the text of a value is complete, so that the value may be skipped. -/
def Value.intact : Value → Bool
  | .array _ intact => intact
  | .object _ intact => intact
  | .broken => false
  | _ => true

/-- A place that waits for a value. -/
inductive Context where
  /-- The next item of an array, after the items read so far (last first). -/
  | item (before : List Value)
  /-- The value of a key, after the members read so far (last first). -/
  | entry (before : List Member) (key : Option String)

/-- What the text may continue with.  The stack holds the places that wait for
the values still open, innermost first. -/
inductive Reading where
  /-- A value has to come. -/
  | expectValue (stack : List Context)
  /-- An array was opened: an item or its end. -/
  | firstItem (stack : List Context)
  /-- A comma or the end of the array. -/
  | afterItem (items : List Value) (stack : List Context)
  /-- An object was opened: a key or its end. -/
  | firstKey (stack : List Context)
  /-- A key, after a comma. -/
  | expectKey (members : List Member) (stack : List Context)
  /-- A colon, after a key. -/
  | expectColon (members : List Member) (key : Option String) (stack : List Context)
  /-- A comma or the end of the object. -/
  | afterMember (members : List Member) (stack : List Context)
  /-- The outermost value is complete. -/
  | finished (value : Value)

namespace Reading

/-- Puts a complete value into the place that waits for it. -/
def deliver (value : Value) : List Context → Reading
  | [] => .finished value
  | .item before :: outer => .afterItem (value :: before) outer
  | .entry before key :: outer => .afterMember (.named key value :: before) outer

/-- The value that consists of one lexeme. -/
def scalar? : Lexeme → Option Value
  | .null => some .null
  | .boolean value => some (.boolean value)
  | .number numeral => some (.number numeral)
  | .text content => some (.text content)
  | _ => none

/-- Starts a value for the innermost place; none if the lexeme starts none. -/
def start? (lexeme : Lexeme) (stack : List Context) : Option Reading :=
  match lexeme with
  | .openBracket => some (.firstItem stack)
  | .openBrace => some (.firstKey stack)
  | lexeme => (scalar? lexeme).map fun value => deliver value stack

/-- Reads one lexeme; none where it cannot stand. -/
def step? : Reading → Lexeme → Option Reading
  | .expectValue stack, lexeme => start? lexeme stack
  | .firstItem stack, .closeBracket => some (deliver (.array [] true) stack)
  | .firstItem stack, lexeme => start? lexeme (.item [] :: stack)
  | .afterItem items stack, .comma => some (.expectValue (.item items :: stack))
  | .afterItem items stack, .closeBracket => some (deliver (.array items.reverse true) stack)
  | .firstKey stack, .closeBrace => some (deliver (.object [] true) stack)
  | .firstKey stack, .text key => some (.expectColon [] key stack)
  | .expectKey members stack, .text key => some (.expectColon members key stack)
  | .expectColon members key stack, .colon => some (.expectValue (.entry members key :: stack))
  | .afterMember members stack, .comma => some (.expectKey members stack)
  | .afterMember members stack, .closeBrace =>
    some (deliver (.object members.reverse true) stack)
  | _, _ => none

/-- Closes the values around an abandoned one as they stand. -/
def closeAll (inner : Value) : List Context → Value
  | [] => inner
  | .item before :: outer => closeAll (.array (inner :: before).reverse false) outer
  | .entry before key :: outer =>
    closeAll (.object (.named key inner :: before).reverse false) outer

/-- What has been read when the text breaks. -/
def abandon : Reading → Value
  | .expectValue [] => .broken
  | .expectValue (.item before :: outer) => closeAll (.array before.reverse false) outer
  | .expectValue (.entry before key :: outer) => closeAll .broken (.entry before key :: outer)
  | .firstItem stack => closeAll (.array [] false) stack
  | .afterItem items stack => closeAll (.array items.reverse false) stack
  | .firstKey stack => closeAll (.object [] false) stack
  | .expectKey members stack => closeAll (.object members.reverse false) stack
  | .expectColon members key stack => closeAll .broken (.entry members key :: stack)
  | .afterMember members stack => closeAll (.object members.reverse false) stack
  | .finished value => value

end Reading

/-- A whole text: its value, and whether the text ends with it. -/
structure Document where
  value : Value
  ended : Bool

namespace Document

/-- Reads on from a given point of the text. -/
def readFrom (reading : Reading) (text : List Char) : Document :=
  match _found : Lexeme.next? text with
  | none =>
    match reading with
    | .finished value => ⟨value, true⟩
    | reading => ⟨reading.abandon, false⟩
  | some (lexeme, rest) =>
    match reading.step? lexeme with
    | some reading => readFrom reading rest
    | none => ⟨reading.abandon, false⟩
termination_by text.length
decreasing_by exact Lexeme.next?_shorter _found

/-- Reads a text. -/
def ofText (text : String) : Document :=
  readFrom (.expectValue []) text.toList

end Document

end Json

end TreeLint
