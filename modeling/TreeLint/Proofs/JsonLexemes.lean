import Mathlib.Data.List.Induction
import TreeLint.Json.Reader
import TreeLint.Json.Writer

/-!
# Written strings and numbers are read back

A string is written with escapes, and scanning it gives the code points of its
characters, none of which is a surrogate.  A natural number is written by its
decimal digits, without a leading zero, and scanning it gives these digits as
long as what follows cannot be taken for a part of the number.
-/

namespace TreeLint

namespace Json

namespace Lexeme

theorem hexDigit?_hexChar : ∀ value < 16, Text.hexDigit? (hexChar value) = some value := by
  decide

theorem unit?_low {code : Nat} (low : code < 0x20) :
    unit? '0' '0' (hexChar (code / 16)) (hexChar (code % 16)) = some code := by
  have zero : Text.hexDigit? '0' = some 0 := rfl
  rw [unit?, zero, hexDigit?_hexChar (code / 16) (by omega),
    hexDigit?_hexChar (code % 16) (by omega)]
  simp only [Option.bind_eq_bind, Option.bind_some, Option.pure_def, Option.some.injEq]
  omega

theorem scanText_plain {c : Char} (notQuote : c ≠ '"') (notBackslash : c ≠ '\\')
    (notControl : ¬ c.toNat < 0x20) (units : List Nat) (rest : List Char) :
    scanText units (c :: rest) = scanText (c.toNat :: units) rest := by
  have notLow : ¬ c < ' ' := notControl
  rw [scanText.eq_def]
  split <;> grind

theorem scanText_escapeChar (c : Char) (units : List Nat) (rest : List Char) :
    scanText units (escapeChar c ++ rest) = scanText (c.toNat :: units) rest := by
  by_cases quote : c = '"'
  · subst quote
    rfl
  by_cases backslash : c = '\\'
  · subst backslash
    rfl
  by_cases backspace : c = '\x08'
  · subst backspace
    rfl
  by_cases formFeed : c = '\x0c'
  · subst formFeed
    rfl
  by_cases newline : c = '\n'
  · subst newline
    rfl
  by_cases carriageReturn : c = '\r'
  · subst carriageReturn
    rfl
  by_cases tab : c = '\t'
  · subst tab
    rfl
  by_cases control : c.toNat < 0x20
  · have escaped : escapeChar c =
        ['\\', 'u', '0', '0', hexChar (c.toNat / 16), hexChar (c.toNat % 16)] := by
      simp [escapeChar, quote, backslash, backspace, formFeed, newline, carriageReturn, tab,
        control]
    rw [escaped]
    simp only [List.cons_append, List.nil_append, scanText, unit?_low control]
  · have plain : escapeChar c = [c] := by
      simp [escapeChar, quote, backslash, backspace, formFeed, newline, carriageReturn, tab,
        control]
    rw [plain]
    exact scanText_plain quote backslash control units rest

theorem scanText_escaped (content : List Char) (units : List Nat) (rest : List Char) :
    scanText units (content.flatMap escapeChar ++ '"' :: rest) =
      some ((content.map Char.toNat).reverse ++ units, rest) := by
  induction content generalizing units with
  | nil => rfl
  | cons c content ih =>
      rw [List.flatMap_cons, List.append_assoc, scanText_escapeChar, ih]
      simp

theorem char_not_surrogate (c : Char) :
    isTrailing c.toNat = false ∧ isLeading c.toNat = false := by
  have valid : c.toNat < 0xD800 ∨ 0xDFFF < c.toNat ∧ c.toNat < 0x110000 := c.valid
  simp only [isTrailing, isLeading, Bool.and_eq_false_iff, decide_eq_false_iff_not]
  omega

theorem joinUnits_codes (content chars : List Char) :
    joinUnits chars (content.map Char.toNat).reverse = some (content ++ chars) := by
  induction content using List.reverseRecOn generalizing chars with
  | nil => rfl
  | append_singleton content c ih =>
      obtain ⟨notTrailing, notLeading⟩ := char_not_surrogate c
      rw [List.map_append, List.reverse_append, List.map_singleton, List.reverse_singleton,
        List.singleton_append, joinUnits.eq_def]
      simp [notTrailing, notLeading, ih]

theorem front_quote {text rest : List Char} {units : List Nat}
    (scanned : scanText [] text = some (units, rest)) :
    front ('"' :: text) = some (.text ((joinUnits [] units).map String.ofList), rest) := by
  simp [front, scanned]

theorem next?_writeText (content : String) (rest : List Char) :
    next? ((writeText content).toList ++ rest) = some (.text (some content), rest) := by
  have scanned := scanText_escaped content.toList [] rest
  have joined := joinUnits_codes content.toList []
  rw [List.append_nil] at scanned joined
  have opened : (writeText content).toList ++ rest =
      '"' :: (content.toList.flatMap escapeChar ++ '"' :: rest) := by
    simp [writeText]
  have notBlank : isBlank '"' = false := by decide
  rw [opened, next?, List.dropWhile_cons_of_neg (by simp [notBlank]), front_quote scanned,
    joined]
  simp

/-! ## Numbers -/

/-- Text that cannot be taken for a further part of a number. -/
def StopsNumber : List Char → Prop
  | [] => True
  | c :: _ => c.isDigit = false ∧ c ≠ '.' ∧ c ≠ 'e' ∧ c ≠ 'E'

/-- The decimal digits of a number. -/
def digitsOf (number : Nat) : List Nat :=
  (Nat.toDigits 10 number).map fun c => c.toNat - '0'.toNat

theorem isDigit_of_mem_toDigits (number : Nat) {c : Char}
    (member : c ∈ Nat.toDigits 10 number) : c.isDigit = true :=
  Nat.isDigit_of_mem_toDigits (by decide) (by decide) member

theorem scanDigits_toDigits (number : Nat) {rest : List Char} (stops : StopsNumber rest) :
    scanDigits (Nat.toDigits 10 number ++ rest) = (digitsOf number, rest) := by
  have digits : ∀ c ∈ Nat.toDigits 10 number, c.isDigit = true :=
    fun c member => isDigit_of_mem_toDigits number member
  rw [scanDigits, List.takeWhile_append_of_pos digits, List.dropWhile_append_of_pos digits]
  cases rest with
  | nil => simp [digitsOf]
  | cons c rest => simp [digitsOf, stops.1]

theorem scanFraction_of_stops {rest : List Char} (stops : StopsNumber rest) :
    scanFraction rest = some ([], rest) := by
  unfold scanFraction
  split
  · simp [StopsNumber] at stops
  · rfl

theorem scanExponent_of_stops {rest : List Char} (stops : StopsNumber rest) :
    scanExponent rest = some (none, rest) := by
  cases rest with
  | nil => rfl
  | cons c rest => simp [scanExponent, stops.2.2.1, stops.2.2.2]

theorem digitsOf_small {number : Nat} (small : number < 10) : digitsOf number = [number] := by
  rw [digitsOf, Nat.toDigits_of_lt_base small]
  exact congrArg (fun digit => [digit]) (Nat.toNat_digitChar_sub_48_of_lt_ten small)

theorem digitsOf_large {number : Nat} (large : 10 ≤ number) :
    digitsOf number = digitsOf (number / 10) ++ [number % 10] := by
  have last := digitsOf_small (Nat.mod_lt number (by decide : 0 < 10))
  rw [digitsOf, Nat.toDigits_of_lt_base (Nat.mod_lt number (by decide : 0 < 10))] at last
  rw [digitsOf, Nat.toDigits_of_base_le (by decide) large, List.map_append, last]
  rfl

theorem digitsOf_head {number : Nat} (positive : 0 < number) :
    ∃ digit rest, digitsOf number = (digit + 1) :: rest := by
  induction number using Nat.strongRecOn with
  | ind number ih =>
      by_cases small : number < 10
      · refine ⟨number - 1, [], ?_⟩
        rw [digitsOf_small small, Nat.sub_add_cancel positive]
      · obtain ⟨digit, rest, front⟩ := ih (number / 10) (by omega) (by omega)
        refine ⟨digit, rest ++ [number % 10], ?_⟩
        rw [digitsOf_large (by omega), front, List.cons_append]

theorem scanUnsigned_toDigits (number : Nat) {rest : List Char} (stops : StopsNumber rest) :
    scanUnsigned false (Nat.toDigits 10 number ++ rest) =
      some (⟨false, digitsOf number, [], none⟩, rest) := by
  have fraction := scanFraction_of_stops stops
  have exponent := scanExponent_of_stops stops
  rw [scanUnsigned, scanDigits_toDigits number stops]
  rcases Nat.eq_zero_or_pos number with zero | positive
  · simp [zero, digitsOf_small, fraction, exponent]
  · obtain ⟨digit, digits, front⟩ := digitsOf_head positive
    simp [front, fraction, exponent]

theorem front_digit {c : Char} (isDigit : c.isDigit = true) {rest behind : List Char}
    {numeral : Numeral} (scanned : scanUnsigned false (c :: rest) = some (numeral, behind)) :
    front (c :: rest) = some (.number numeral, behind) := by
  have other : ∀ mark : Char, mark.isDigit = false → c ≠ mark := by
    rintro mark notDigit rfl
    simp [isDigit] at notDigit
  simp [front, scanned, other]

theorem not_isBlank_digit {c : Char} (isDigit : c.isDigit = true) : isBlank c = false := by
  have other : ∀ mark : Char, mark.isDigit = false → c ≠ mark := by
    rintro mark notDigit rfl
    simp [isDigit] at notDigit
  simp [isBlank, other]

theorem next?_toDigits (number : Nat) {rest : List Char} (stops : StopsNumber rest) :
    next? (Nat.toDigits 10 number ++ rest) =
      some (.number ⟨false, digitsOf number, [], none⟩, rest) := by
  have scanned := scanUnsigned_toDigits number stops
  cases digits : Nat.toDigits 10 number with
  | nil => exact (Nat.toDigits_ne_nil digits).elim
  | cons c tail =>
      have isDigit : c.isDigit = true := isDigit_of_mem_toDigits number (by simp [digits])
      rw [digits, List.cons_append] at scanned
      have notBlank := not_isBlank_digit isDigit
      rw [List.cons_append, next?, List.dropWhile_cons_of_neg (by simp [notBlank]),
        front_digit isDigit scanned]

end Lexeme

namespace Numeral

theorem absorb_append {limit value middle : Nat} {first : List Nat}
    (absorbed : absorb limit value first = (middle, [])) (second : List Nat) :
    absorb limit value (first ++ second) = absorb limit middle second := by
  induction first generalizing value with
  | nil =>
      cases absorbed
      rfl
  | cons digit first ih =>
      rw [absorb] at absorbed
      rw [List.cons_append, absorb]
      split at absorbed
      · simp at absorbed
      · rename_i fits
        rw [if_neg fits]
        exact ih absorbed

/-- The digits of a number within the limit are read to this number. -/
theorem absorb_digitsOf (limit : Nat) {number : Nat} (bounded : number ≤ limit) :
    absorb limit 0 (Lexeme.digitsOf number) = (number, []) := by
  induction number using Nat.strongRecOn with
  | ind number ih =>
      by_cases small : number < 10
      · have fits : ¬ limit < 0 * 10 + number := by omega
        rw [Lexeme.digitsOf_small small, absorb, if_neg fits, absorb]
        simp
      · have front := ih (number / 10) (by omega) (by omega)
        have fits : ¬ limit < number / 10 * 10 + number % 10 := by omega
        have whole : number / 10 * 10 + number % 10 = number := by omega
        rw [Lexeme.digitsOf_large (by omega), absorb_append front, absorb, if_neg fits, absorb,
          whole]

theorem quantity?_digitsOf {number : Nat} (bounded : number < UInt64.size) :
    quantity? ⟨false, Lexeme.digitsOf number, [], none⟩ = some (.integer number) := by
  have absorbed := absorb_digitsOf significandLimit (Nat.le_sub_one_of_lt bounded)
  simp [quantity?, absorbed]

end Numeral

theorem Value.readWord_digitsOf (word : UInt32) :
    Value.readWord (.number ⟨false, Lexeme.digitsOf word.toNat, [], none⟩) = .ok word := by
  have bounded : word.toNat < UInt32.size := word.toNat_lt_size
  have large : UInt32.size < UInt64.size := by decide
  have quantity := Numeral.quantity?_digitsOf (Nat.lt_trans bounded large)
  have fits : (0 : Int) ≤ word.toNat ∧ (word.toNat : Int) < UInt32.size := by omega
  simp only [Value.readWord, Value.found?, quantity, Option.map_some, if_pos fits]
  simp

end Json

end TreeLint
