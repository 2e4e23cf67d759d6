import Mathlib.Data.List.Basic
import TreeLint.Proofs.NodeText

/-!
# The spellings of a JSON value

A JSON value consists of lexemes, and each lexeme has words.  Punctuation and
literals have one word each.  A string has one for every way to write its 16-bit
units, a number has one for each letter and sign of its exponent.  A text spells
lexemes if it is made of words of these lexemes with any blanks around them.
Every text that spells the lexemes of a value is read as this value.
-/

namespace TreeLint

namespace Json

/-- Text without any content. -/
def Blanks (text : List Char) : Prop :=
  ∀ c ∈ text, c ∈ [' ', '\t', '\n', '\r']

/-! ## Strings -/

/-- The escapes of one letter with the characters they stand for. -/
def letterEscapes : List (Char × Char) :=
  [('"', '"'), ('\\', '\\'), ('/', '/'), ('b', '\x08'), ('f', '\x0c'), ('n', '\n'),
    ('r', '\r'), ('t', '\t')]

/-- The hexadecimal digit of a value, with a letter of either case. -/
def SpellsDigit (value : Nat) (c : Char) : Prop :=
  value < 16 ∧ (c = hexChar value ∨ c = (hexChar value).toUpper)

/-- The ways to write a unit of a string. -/
inductive SpellsUnit : Nat → List Char → Prop
  | plain {c : Char} (notQuote : c ≠ '"') (notBackslash : c ≠ '\\')
      (notControl : ¬ c.toNat < 0x20) : SpellsUnit c.toNat [c]
  | letter {letter c : Char} (listed : (letter, c) ∈ letterEscapes) :
      SpellsUnit c.toNat ['\\', letter]
  | digits {first second third fourth : Nat} {a b c d : Char} (one : SpellsDigit first a)
      (two : SpellsDigit second b) (three : SpellsDigit third c) (four : SpellsDigit fourth d) :
      SpellsUnit (((first * 16 + second) * 16 + third) * 16 + fourth) ['\\', 'u', a, b, c, d]

open Lexeme

/-- The characters of a list of units, where surrogates have to come in pairs. -/
def decodeUnits : List Nat → Option (List Char)
  | [] => some []
  | unit :: rest =>
    if isLeading unit then
      match rest with
      | trailing :: rest =>
        if isTrailing trailing then
          (decodeUnits rest).map
            (Char.ofNat (0x10000 + (unit - 0xD800) * 0x400 + (trailing - 0xDC00)) :: ·)
        else none
      | [] => none
    else if isTrailing unit then none
    else (decodeUnits rest).map (Char.ofNat unit :: ·)

theorem hexDigit?_spelled {value : Nat} {c : Char} (spelled : SpellsDigit value c) :
    Text.hexDigit? c = some value := by
  have upper : ∀ value < 16, Text.hexDigit? (hexChar value).toUpper = some value := by decide
  obtain ⟨bound, rfl | rfl⟩ := spelled
  · exact hexDigit?_hexChar value bound
  · exact upper value bound

theorem scanText_unit {unit : Nat} {word : List Char} (spelled : SpellsUnit unit word)
    (units : List Nat) (rest : List Char) :
    scanText units (word ++ rest) = scanText (unit :: units) rest := by
  cases spelled with
  | plain notQuote notBackslash notControl =>
      exact scanText_plain notQuote notBackslash notControl units rest
  | letter listed =>
      simp only [letterEscapes, List.mem_cons, Prod.mk.injEq, List.not_mem_nil, or_false] at listed
      rcases listed with ⟨rfl, rfl⟩ | ⟨rfl, rfl⟩ | ⟨rfl, rfl⟩ | ⟨rfl, rfl⟩ | ⟨rfl, rfl⟩ |
        ⟨rfl, rfl⟩ | ⟨rfl, rfl⟩ | ⟨rfl, rfl⟩ <;> rfl
  | digits one two three four =>
      simp [scanText, unit?, hexDigit?_spelled one, hexDigit?_spelled two,
        hexDigit?_spelled three, hexDigit?_spelled four]

theorem scanText_spelled {pieces : List (Nat × List Char)}
    (spelled : ∀ piece ∈ pieces, SpellsUnit piece.1 piece.2) (units : List Nat)
    (rest : List Char) :
    scanText units (pieces.flatMap Prod.snd ++ '"' :: rest) =
      some ((pieces.map Prod.fst).reverse ++ units, rest) := by
  induction pieces generalizing units with
  | nil => rfl
  | cons piece pieces ih =>
      obtain ⟨here, later⟩ := List.forall_mem_cons.mp spelled
      rw [List.flatMap_cons, List.append_assoc, scanText_unit here, ih later]
      simp

/-- Units are joined piece by piece, as long as no pair is torn apart. -/
theorem joinUnits_append {newer older : List Nat} (chars : List Char)
    (untorn : ∀ trailing ∈ newer.getLast?, isTrailing trailing = true →
      ∀ leading ∈ older.head?, isLeading leading = false) :
    joinUnits chars (newer ++ older) =
      (joinUnits chars newer).bind fun joined => joinUnits joined older := by
  fun_induction joinUnits chars newer with
  | case1 chars => simp
  | case2 chars unit trails leading rest leads ih =>
      rw [List.cons_append, List.cons_append, joinUnits.eq_def]
      simp only [trails, leads, if_true]
      apply ih
      intro trailing last
      exact untorn trailing (List.mem_getLast?_cons (List.mem_getLast?_cons last))
  | case3 chars unit trails leading rest alone =>
      rw [List.cons_append, List.cons_append, joinUnits.eq_def]
      simp [trails, alone]
  | case4 chars unit trails =>
      have unpaired := untorn unit (by simp) trails
      rw [List.singleton_append, joinUnits.eq_def]
      cases older with
      | nil => simp [trails]
      | cons leading older => simp [trails, unpaired leading (by simp)]
  | case5 chars unit rest notTrailing leads =>
      rw [List.cons_append, joinUnits.eq_def]
      simp [notTrailing, leads]
  | case6 chars unit rest notTrailing notLeading ih =>
      rw [List.cons_append, joinUnits.eq_def]
      simp only [notTrailing, notLeading, if_false, Bool.false_eq_true]
      apply ih
      intro trailing last
      exact untorn trailing (List.mem_getLast?_cons last)

theorem not_leading_or_not_trailing (unit : Nat) :
    isLeading unit = false ∨ isTrailing unit = false := by
  simp only [isTrailing, isLeading, Bool.and_eq_false_iff, decide_eq_false_iff_not]
  omega

/-- Joining the units from the last one back decodes them. -/
theorem joinUnits_reverse (units : List Nat) :
    joinUnits [] units.reverse = decodeUnits units := by
  fun_induction decodeUnits units with
  | case1 => rfl
  | case2 unit leads trailing rest trails ih =>
      have notLeading : isLeading trailing = false := by
        simpa [trails] using not_leading_or_not_trailing trailing
      rw [List.reverse_cons, List.reverse_cons, List.append_assoc, joinUnits_append _ (by
        simp [notLeading]), ih, Option.map_eq_bind]
      congr 1
      funext joined
      simp [joinUnits, trails, leads]
  | case3 unit leads trailing rest alone =>
      have notTrailing : isTrailing unit = false := by
        simpa [leads] using not_leading_or_not_trailing unit
      rw [List.reverse_cons, joinUnits_append _ (by simp [alone])]
      simp [joinUnits, leads, notTrailing]
  | case4 unit leads =>
      have notTrailing : isTrailing unit = false := by
        simpa [leads] using not_leading_or_not_trailing unit
      simp [joinUnits, leads, notTrailing]
  | case5 unit rest notLeading trails =>
      rw [List.reverse_cons, joinUnits_append _ (by simp [notLeading])]
      simp [joinUnits, trails]
  | case6 unit rest notLeading notTrailing ih =>
      rw [List.reverse_cons, joinUnits_append _ (by simp [notLeading]), ih, Option.map_eq_bind]
      congr 1
      funext joined
      simp [joinUnits, notTrailing, notLeading]

theorem decodeUnits_codes (content : List Char) :
    decodeUnits (content.map Char.toNat) = some content := by
  induction content with
  | nil => rfl
  | cons c content ih =>
      obtain ⟨notTrailing, notLeading⟩ := char_not_surrogate c
      rw [List.map_cons, decodeUnits.eq_def]
      simp [notTrailing, notLeading, ih]

/-! ## Numbers -/

/-- Digits of which there is at least one. -/
structure DecimalDigits (digits : List Nat) : Prop where
  present : digits ≠ []
  small : ∀ digit ∈ digits, digit < 10

inductive SpellsFraction : List Nat → List Char → Prop
  | absent : SpellsFraction [] []
  | point {digits : List Nat} (decimal : DecimalDigits digits) :
      SpellsFraction digits ('.' :: digits.map Nat.digitChar)

inductive SpellsExponent : Option (Bool × List Nat) → List Char → Prop
  | absent : SpellsExponent none []
  | unsigned {letter : Char} {digits : List Nat} (isLetter : letter = 'e' ∨ letter = 'E')
      (decimal : DecimalDigits digits) :
      SpellsExponent (some (false, digits)) (letter :: digits.map Nat.digitChar)
  | signed {letter : Char} {digits : List Nat} (isLetter : letter = 'e' ∨ letter = 'E')
      (negative : Bool) (decimal : DecimalDigits digits) :
      SpellsExponent (some (negative, digits))
        (letter :: (if negative then '-' else '+') :: digits.map Nat.digitChar)

/-- The ways to write a number.  No zero stands in front of another digit. -/
inductive SpellsNumeral : Numeral → List Char → Prop
  | written {whole fraction : List Nat} {exponent : Option (Bool × List Nat)}
      {point power : List Char} (negative : Bool) (decimal : DecimalDigits whole)
      (leading : whole.head? = some 0 → whole = [0]) (behind : SpellsFraction fraction point)
      (scaled : SpellsExponent exponent power) :
      SpellsNumeral ⟨negative, whole, fraction, exponent⟩
        ((if negative then ['-'] else []) ++ whole.map Nat.digitChar ++ point ++ power)

theorem DecimalDigits.isDigit_first {digit : Nat} {digits : List Nat}
    (decimal : DecimalDigits (digit :: digits)) :
    (Nat.digitChar digit).isDigit = true := by
  rw [Nat.isDigit_digitChar, decide_eq_true (decimal.small digit List.mem_cons_self)]

theorem scanDigits_spelled {digits : List Nat} (small : ∀ digit ∈ digits, digit < 10)
    {rest : List Char} (ends : ∀ c ∈ rest.head?, c.isDigit = false) :
    scanDigits (digits.map Nat.digitChar ++ rest) = (digits, rest) := by
  have allDigits : ∀ c ∈ digits.map Nat.digitChar, c.isDigit = true := by
    intro c member
    obtain ⟨digit, isDigit, rfl⟩ := List.mem_map.mp member
    rw [Nat.isDigit_digitChar, decide_eq_true (small digit isDigit)]
  have recovered : (digits.map Nat.digitChar).map (fun c => c.toNat - '0'.toNat) = digits := by
    rw [List.map_map]
    conv_rhs => rw [← List.map_id digits]
    apply List.map_congr_left
    intro digit member
    exact Nat.toNat_digitChar_sub_48_of_lt_ten (small digit member)
  rw [scanDigits, List.takeWhile_append_of_pos allDigits, List.dropWhile_append_of_pos allDigits,
    List.map_append, recovered]
  cases rest with
  | nil => simp
  | cons c rest => simp [ends c (by simp)]

theorem scanFraction_spelled {fraction : List Nat} {point rest : List Char}
    (spelled : SpellsFraction fraction point)
    (ends : ∀ c ∈ rest.head?, c.isDigit = false ∧ c ≠ '.') :
    scanFraction (point ++ rest) = some (fraction, rest) := by
  cases spelled with
  | absent =>
      cases rest with
      | nil => rfl
      | cons c rest => simp [scanFraction, (ends c (by simp)).2]
  | point decimal =>
      have scanned := scanDigits_spelled decimal.small fun c first => (ends c first).1
      cases fraction with
      | nil => exact absurd rfl decimal.present
      | cons digit digits => rw [List.cons_append, scanFraction, scanned]

theorem scanExponentDigits_spelled {digits : List Nat} (decimal : DecimalDigits digits)
    (negative : Bool) {rest : List Char} (stops : StopsNumber rest) :
    scanExponentDigits negative (digits.map Nat.digitChar ++ rest) =
      some (some (negative, digits), rest) := by
  have scanned : scanDigits (digits.map Nat.digitChar ++ rest) = (digits, rest) := by
    apply scanDigits_spelled decimal.small
    intro c first
    cases rest with
    | nil => cases first
    | cons _ _ =>
        cases first
        exact stops.1
  cases digits with
  | nil => exact absurd rfl decimal.present
  | cons digit digits => rw [scanExponentDigits, scanned]

theorem scanExponent_spelled {exponent : Option (Bool × List Nat)} {power rest : List Char}
    (spelled : SpellsExponent exponent power) (stops : StopsNumber rest) :
    scanExponent (power ++ rest) = some (exponent, rest) := by
  cases spelled with
  | absent => exact scanExponent_of_stops stops
  | @unsigned letter digits isLetter decimal =>
      have scanned := scanExponentDigits_spelled decimal false stops
      cases digits with
      | nil => exact absurd rfl decimal.present
      | cons digit digits =>
          -- The first digit cannot be taken for a sign.
          have isDigit := decimal.isDigit_first
          have notPlus : Nat.digitChar digit ≠ '+' := by
            intro same
            simp [same] at isDigit
          have notMinus : Nat.digitChar digit ≠ '-' := by
            intro same
            simp [same] at isDigit
          rw [List.map_cons, List.cons_append] at scanned ⊢
          rcases isLetter with rfl | rfl <;> simp [scanExponent, notPlus, notMinus, scanned]
  | signed isLetter negative decimal =>
      have scanned := scanExponentDigits_spelled decimal negative stops
      cases negative <;> rcases isLetter with rfl | rfl <;> simp [scanExponent, scanned]

theorem scanUnsigned_spelled {whole fraction : List Nat} {exponent : Option (Bool × List Nat)}
    {point power rest : List Char} (decimal : DecimalDigits whole)
    (leading : whole.head? = some 0 → whole = [0]) (behind : SpellsFraction fraction point)
    (scaled : SpellsExponent exponent power) (stops : StopsNumber rest) (negative : Bool) :
    scanUnsigned negative (whole.map Nat.digitChar ++ (point ++ (power ++ rest))) =
      some (⟨negative, whole, fraction, exponent⟩, rest) := by
  have pointEnds : ∀ c ∈ (power ++ rest).head?, c.isDigit = false ∧ c ≠ '.' := by
    intro c first
    cases scaled with
    | absent =>
        cases rest with
        | nil => cases first
        | cons _ _ =>
            cases first
            exact ⟨stops.1, stops.2.1⟩
    | unsigned isLetter | signed isLetter =>
        cases first
        rcases isLetter with rfl | rfl <;> decide
  have wholeEnds : ∀ c ∈ (point ++ (power ++ rest)).head?, c.isDigit = false := by
    intro c first
    cases behind with
    | absent => exact (pointEnds c first).1
    | point _ =>
        cases first
        decide
  rw [scanUnsigned, scanDigits_spelled decimal.small wholeEnds]
  have scannedFraction := scanFraction_spelled behind pointEnds
  have scannedExponent := scanExponent_spelled scaled stops
  cases whole with
  | nil => exact absurd rfl decimal.present
  | cons digit more =>
      cases more with
      | nil => simp [scannedFraction, scannedExponent]
      | cons next more =>
          cases digit with
          | zero => simp at leading
          | succ digit => simp [scannedFraction, scannedExponent]

theorem front_numeral {numeral : Numeral} {word rest : List Char}
    (spelled : SpellsNumeral numeral word) (stops : StopsNumber rest) :
    front (word ++ rest) = some (.number numeral, rest) := by
  obtain ⟨negative, decimal, leading, behind, scaled⟩ := spelled
  have scanned := scanUnsigned_spelled decimal leading behind scaled stops negative
  cases negative with
  | true => simp [front, scanned]
  | false =>
      obtain ⟨digit, digits, rfl⟩ := List.exists_cons_of_ne_nil decimal.present
      simpa using front_digit decimal.isDigit_first scanned

/-! ## Lexemes -/

/-- The lexemes that have a single word. -/
def fixedWords : List (Lexeme × String) :=
  [(.openBracket, "["), (.closeBracket, "]"), (.openBrace, "\x7b"), (.closeBrace, "\x7d"),
    (.comma, ","), (.colon, ":"), (.null, "null"), (.boolean true, "true"),
    (.boolean false, "false")]

/-- The words of a lexeme. -/
inductive SpellsLexeme : Lexeme → List Char → Prop
  | fixed {lexeme : Lexeme} {word : String} (listed : (lexeme, word) ∈ fixedWords) :
      SpellsLexeme lexeme word.toList
  | number {numeral : Numeral} {word : List Char} (spelled : SpellsNumeral numeral word) :
      SpellsLexeme (.number numeral) word
  | text {pieces : List (Nat × List Char)}
      (spelled : ∀ piece ∈ pieces, SpellsUnit piece.1 piece.2) :
      SpellsLexeme (.text ((decodeUnits (pieces.map Prod.fst)).map String.ofList))
        ('"' :: (pieces.flatMap Prod.snd ++ ['"']))

/-- A text may be written character by character. -/
theorem spells_characters {pieces : List (Char × List Char)}
    (spelled : ∀ piece ∈ pieces, SpellsUnit piece.1.toNat piece.2) :
    SpellsLexeme (.text (some (String.ofList (pieces.map Prod.fst))))
      ('"' :: (pieces.flatMap Prod.snd ++ ['"'])) := by
  have units : ∀ unit ∈ pieces.map fun piece => (piece.1.toNat, piece.2),
      SpellsUnit unit.1 unit.2 := by
    intro unit member
    obtain ⟨piece, isPiece, rfl⟩ := List.mem_map.mp member
    exact spelled piece isPiece
  have written := SpellsLexeme.text units
  have decoded := decodeUnits_codes (pieces.map Prod.fst)
  simp only [List.map_map, List.flatMap_map, Function.comp_def] at written decoded
  rwa [decoded] at written

theorem spells_plain (content : String)
    (plain : ∀ c ∈ content.toList, c ≠ '"' ∧ c ≠ '\\' ∧ ¬ c.toNat < 0x20) :
    SpellsLexeme (.text (some content)) ('"' :: (content.toList ++ ['"'])) := by
  have pieces : ∀ piece ∈ content.toList.map fun c => (c, [c]),
      SpellsUnit piece.1.toNat piece.2 := by
    intro piece member
    obtain ⟨c, isPart, rfl⟩ := List.mem_map.mp member
    obtain ⟨notQuote, notBackslash, notControl⟩ := plain c isPart
    exact .plain notQuote notBackslash notControl
  have written := spells_characters pieces
  simpa [Function.comp_def, List.flatMap_map] using written

theorem front_spelled {lexeme : Lexeme} {word rest : List Char}
    (spelled : SpellsLexeme lexeme word)
    (stops : ∀ numeral, lexeme = .number numeral → StopsNumber rest) :
    front (word ++ rest) = some (lexeme, rest) := by
  cases spelled with
  | fixed listed =>
      simp only [fixedWords, List.mem_cons, Prod.mk.injEq, List.not_mem_nil, or_false] at listed
      rcases listed with ⟨rfl, rfl⟩ | ⟨rfl, rfl⟩ | ⟨rfl, rfl⟩ | ⟨rfl, rfl⟩ | ⟨rfl, rfl⟩ |
        ⟨rfl, rfl⟩ | ⟨rfl, rfl⟩ | ⟨rfl, rfl⟩ | ⟨rfl, rfl⟩ <;> rfl
  | number spelled => exact front_numeral spelled (stops _ rfl)
  | text spelled =>
      have scanned := scanText_spelled spelled [] rest
      rw [List.append_nil] at scanned
      rw [List.cons_append, List.append_assoc, List.singleton_append, front_quote scanned,
        joinUnits_reverse]

theorem SpellsLexeme.first {lexeme : Lexeme} {word : List Char}
    (spelled : SpellsLexeme lexeme word) : ∃ c tail, word = c :: tail ∧ isBlank c = false := by
  cases spelled with
  | fixed listed =>
      simp only [fixedWords, List.mem_cons, Prod.mk.injEq, List.not_mem_nil, or_false] at listed
      rcases listed with ⟨-, rfl⟩ | ⟨-, rfl⟩ | ⟨-, rfl⟩ | ⟨-, rfl⟩ | ⟨-, rfl⟩ |
        ⟨-, rfl⟩ | ⟨-, rfl⟩ | ⟨-, rfl⟩ | ⟨-, rfl⟩ <;> exact ⟨_, _, rfl, by decide⟩
  | number spelled =>
      obtain ⟨negative, decimal, -, -, -⟩ := spelled
      obtain ⟨digit, digits, rfl⟩ := List.exists_cons_of_ne_nil decimal.present
      cases negative with
      | true => exact ⟨_, _, rfl, by decide⟩
      | false => exact ⟨_, _, rfl, not_isBlank_digit decimal.isDigit_first⟩
  | text _ => exact ⟨_, _, rfl, by decide⟩

theorem dropWhile_blanks {blanks : List Char} (blank : Blanks blanks) (rest : List Char) :
    (blanks ++ rest).dropWhile isBlank = rest.dropWhile isBlank := by
  apply List.dropWhile_append_of_pos
  intro c member
  have listed := blank c member
  simp only [List.mem_cons, List.not_mem_nil, or_false] at listed
  rcases listed with rfl | rfl | rfl | rfl <;> rfl

theorem next?_blanks {blanks : List Char} (blank : Blanks blanks) : next? blanks = none := by
  have dropped := dropWhile_blanks blank []
  rw [List.append_nil] at dropped
  rw [next?, dropped]
  rfl

theorem next?_spelled {lexeme : Lexeme} {blanks word rest : List Char} (blank : Blanks blanks)
    (spelled : SpellsLexeme lexeme word)
    (stops : ∀ numeral, lexeme = .number numeral → StopsNumber rest) :
    next? (blanks ++ (word ++ rest)) = some (lexeme, rest) := by
  obtain ⟨c, tail, rfl, notBlank⟩ := spelled.first
  rw [next?, dropWhile_blanks blank, List.cons_append,
    List.dropWhile_cons_of_neg (by simp [notBlank])]
  exact front_spelled spelled stops

/-! ## Texts -/

/-- The texts that consist of words of the given lexemes, with any blanks around them. -/
inductive Spells : List Lexeme → List Char → Prop
  | ended {blanks : List Char} (blank : Blanks blanks) : Spells [] blanks
  | lexeme {lexeme : Lexeme} {lexemes : List Lexeme} {blanks word text : List Char}
      (blank : Blanks blanks) (spelled : SpellsLexeme lexeme word)
      (behind : Spells lexemes text) : Spells (lexeme :: lexemes) (blanks ++ (word ++ text))

theorem stopsNumber_blanks {blanks rest : List Char} (blank : Blanks blanks)
    (stops : StopsNumber rest) : StopsNumber (blanks ++ rest) := by
  cases blanks with
  | nil => exact stops
  | cons c blanks =>
      have listed := blank c List.mem_cons_self
      simp only [List.mem_cons, List.not_mem_nil, or_false] at listed
      rcases listed with rfl | rfl | rfl | rfl <;> simp [StopsNumber]

theorem Reading.lexeme_after_value {value : Value} {stack : List Context} {lexeme : Lexeme}
    {next : Reading} (stepped : (deliver value stack).step? lexeme = some next) :
    lexeme = .comma ∨ lexeme = .closeBracket ∨ lexeme = .closeBrace := by
  match stack with
  | [] => simp [deliver, step?] at stepped
  | .item _ :: _ | .entry _ _ :: _ => cases lexeme <;> simp [deliver, step?] at stepped ⊢

/-- Where a number can stand, nothing behind it can be taken for a part of it. -/
theorem stopsNumber_behind {reading next : Reading} {numeral : Numeral}
    (stepped : reading.step? (.number numeral) = some next) {lexemes : List Lexeme} {value : Value}
    (accepted : lexemes.foldlM Reading.step? next = some (.finished value)) {text : List Char}
    (spelled : Spells lexemes text) : StopsNumber text := by
  obtain ⟨stack, rfl⟩ : ∃ stack, next = Reading.deliver (.number numeral) stack := by
    cases reading <;> cases stepped <;> exact ⟨_, rfl⟩
  cases spelled with
  | ended blank =>
      have stops : StopsNumber [] := trivial
      simpa using stopsNumber_blanks blank stops
  | lexeme blank spelled behind =>
      rw [List.foldlM_cons] at accepted
      obtain ⟨_, marked, -⟩ := Option.bind_eq_some_iff.mp accepted
      apply stopsNumber_blanks blank
      rcases Reading.lexeme_after_value marked with rfl | rfl | rfl <;>
        cases spelled with
        | fixed listed =>
            simp only [fixedWords, List.mem_cons, Prod.mk.injEq, reduceCtorEq, false_and, true_and,
              false_or, or_false, List.not_mem_nil] at listed
            subst listed
            simp [StopsNumber]

theorem readFrom_spelled {lexemes : List Lexeme} {text : List Char} (spelled : Spells lexemes text)
    {reading : Reading} {value : Value}
    (accepted : lexemes.foldlM Reading.step? reading = some (.finished value)) :
    Document.readFrom reading text = ⟨value, true⟩ := by
  induction spelled generalizing reading with
  | ended blank =>
      cases accepted
      have nothing := next?_blanks blank
      rw [Document.readFrom.eq_def]
      split
      · rfl
      · rename_i found
        simp [nothing] at found
  | @lexeme lexeme lexemes blanks word text blank spelled behind ih =>
      rw [List.foldlM_cons] at accepted
      obtain ⟨next, stepped, further⟩ := Option.bind_eq_some_iff.mp accepted
      have found : next? (blanks ++ (word ++ text)) = some (lexeme, text) := by
        apply next?_spelled blank spelled
        rintro numeral rfl
        exact stopsNumber_behind stepped further behind
      rw [Document.readFrom_step found stepped]
      exact ih further

/-! ## Values -/

/-- The lexemes that a value consists of. -/
inductive Value.MadeOf : Value → List Lexeme → Prop
  | null : MadeOf .null [.null]
  | boolean (value : Bool) : MadeOf (.boolean value) [.boolean value]
  | number (numeral : Numeral) : MadeOf (.number numeral) [.number numeral]
  | text (content : Option String) : MadeOf (.text content) [.text content]
  | array (items : List (Value × List Lexeme)) (inner : ∀ item ∈ items, MadeOf item.1 item.2) :
      MadeOf (.array (items.map Prod.fst) true)
        (.openBracket :: ([.comma].intercalate (items.map Prod.snd) ++ [.closeBracket]))
  | object (members : List (Option String × Value × List Lexeme))
      (inner : ∀ member ∈ members, MadeOf member.2.1 member.2.2) :
      MadeOf (.object (members.map fun member => .named member.1 member.2.1) true)
        (.openBrace :: ([.comma].intercalate
          (members.map fun member => .text member.1 :: .colon :: member.2.2) ++ [.closeBrace]))

namespace Reading

/-- A value has to come, and it goes to the top of the stack. -/
inductive Awaits : Reading → List Context → Prop
  | value (stack : List Context) : Awaits (.expectValue stack) stack
  | firstItem (stack : List Context) : Awaits (.firstItem stack) (.item [] :: stack)

/-- A key has to come, behind some members. -/
inductive AwaitsKey : Reading → List Member → List Context → Prop
  | firstKey (stack : List Context) : AwaitsKey (.firstKey stack) [] stack
  | key (members : List Member) (stack : List Context) :
      AwaitsKey (.expectKey members stack) members stack

theorem Awaits.step?_eq {reading : Reading} {stack : List Context}
    (awaits : Awaits reading stack) {lexeme : Lexeme} (opens : lexeme ≠ .closeBracket) :
    reading.step? lexeme = start? lexeme stack := by
  cases awaits with
  | value => rfl
  | firstItem =>
      cases lexeme with
      | closeBracket => exact absurd rfl opens
      | _ => rfl

theorem foldlM_step {reading next : Reading} {lexeme : Lexeme}
    (stepped : reading.step? lexeme = some next) (lexemes : List Lexeme) :
    (lexeme :: lexemes).foldlM step? reading = lexemes.foldlM step? next := by
  rw [List.foldlM_cons, stepped]
  rfl

theorem foldlM_append {reading middle : Reading} {first : List Lexeme}
    (read : first.foldlM step? reading = some middle) (second : List Lexeme) :
    (first ++ second).foldlM step? reading = second.foldlM step? middle := by
  rw [List.foldlM_append, read]
  rfl

/-- Groups of lexemes between commas are read one by one. -/
theorem foldlM_separated {α β : Type} {lexemesOf : α → List Lexeme} {build : α → β}
    (awaiting : Reading → List β → Prop) (after : List β → Reading)
    (separated : ∀ before, ∃ next, (after before).step? .comma = some next ∧ awaiting next before)
    {groups : List α} (present : groups ≠ [])
    (inner : ∀ group ∈ groups, ∀ reading before, awaiting reading before →
      (lexemesOf group).foldlM step? reading = some (after (build group :: before)))
    {reading : Reading} {before : List β} (awaits : awaiting reading before) :
    List.foldlM step? reading ([Lexeme.comma].intercalate (groups.map lexemesOf)) =
      some (after ((groups.map build).reverse ++ before)) := by
  induction groups generalizing reading before with
  | nil => exact absurd rfl present
  | cons group groups ih =>
      obtain ⟨here, later⟩ := List.forall_mem_cons.mp inner
      have delivered := here reading before awaits
      by_cases last : groups = []
      · subst last
        rw [List.map_singleton, List.intercalate_singleton, delivered]
        rfl
      · obtain ⟨next, stepped, awaitsNext⟩ := separated (build group :: before)
        rw [List.map_cons, List.intercalate_cons_of_ne_nil (by simpa using last),
          List.append_assoc, foldlM_append delivered, List.singleton_append,
          foldlM_step stepped, ih last later awaitsNext]
        simp

/-- The lexemes of a value deliver it to the place that waits for it. -/
theorem foldlM_madeOf {value : Value} {lexemes : List Lexeme} (made : value.MadeOf lexemes)
    {reading : Reading} {stack : List Context} (awaits : Awaits reading stack) :
    lexemes.foldlM step? reading = some (deliver value stack) := by
  induction made generalizing reading stack with
  | null | boolean _ | number _ | text _ =>
      rw [foldlM_step (awaits.step?_eq (by simp))]
      rfl
  | array items inner ih =>
      rw [foldlM_step (awaits.step?_eq (by simp))]
      by_cases none : items = []
      · subst none
        rfl
      · have item : ∀ item ∈ items, ∀ reading before, Awaits reading (.item before :: stack) →
            List.foldlM step? reading item.2 = some (.afterItem (item.1 :: before) stack) := by
          intro item member reading before awaits
          exact ih item member awaits
        have read := foldlM_separated
          (fun reading before => Awaits reading (.item before :: stack)) (.afterItem · stack)
          (fun before => ⟨_, rfl, .value _⟩) none item (.firstItem stack)
        rw [foldlM_append read, foldlM_step rfl]
        simp
  | object members inner ih =>
      rw [foldlM_step (awaits.step?_eq (by simp))]
      by_cases none : members = []
      · subst none
        rfl
      · have pair : ∀ member ∈ members, ∀ reading before, AwaitsKey reading before stack →
            List.foldlM step? reading (.text member.1 :: .colon :: member.2.2) =
              some (.afterMember (.named member.1 member.2.1 :: before) stack) := by
          intro member isMember reading before awaits
          have delivered := ih member isMember (.value (.entry before member.1 :: stack))
          cases awaits <;> exact delivered
        have read := foldlM_separated (fun reading before => AwaitsKey reading before stack)
          (.afterMember · stack) (fun before => ⟨_, rfl, .key before stack⟩) none pair
          (.firstKey stack)
        rw [foldlM_append read, foldlM_step rfl]
        simp

end Reading

/-- The text is a spelling of the value. -/
def Value.SpelledBy (value : Value) (text : String) : Prop :=
  ∃ lexemes, value.MadeOf lexemes ∧ Spells lexemes text.toList

theorem ofText_spelled {value : Value} {text : String} (spelled : value.SpelledBy text) :
    Document.ofText text = ⟨value, true⟩ := by
  obtain ⟨lexemes, made, words⟩ := spelled
  exact readFrom_spelled words (Reading.foldlM_madeOf made (.value []))

end Json

end TreeLint
