import TreeLint.Json.Numeral
import TreeLint.Text.Digits

/-!
# Lexemes of JSON text

Text is cut into lexemes from the left.  A string is held decoded; one whose
escapes spell an unpaired surrogate has no decoded form, yet it is a string
and may be skipped.  The first characters that start no lexeme are the lexeme
`broken`, after which nothing is read, so whatever consumes the lexemes in
order meets the first fault of the text in its place.
-/

namespace TreeLint

namespace Json

/-- The smallest units of JSON text. -/
inductive Lexeme where
  | openBracket
  | closeBracket
  | openBrace
  | closeBrace
  | comma
  | colon
  | null
  | boolean (value : Bool)
  | number (numeral : Numeral)
  /-- A string, or nothing where its escapes leave a surrogate unpaired. -/
  | text (content : Option String)
  /-- The text stops making sense here. -/
  | broken
deriving DecidableEq, Repr

namespace Lexeme

/-- The four characters that may stand between lexemes. -/
def isBlank (c : Char) : Bool :=
  c == ' ' || c == '\n' || c == '\t' || c == '\r'

/-- The 16-bit unit written by four hexadecimal digits. -/
def unit? (a b c d : Char) : Option Nat := do
  let a ← Text.hexDigit? a
  let b ← Text.hexDigit? b
  let c ← Text.hexDigit? c
  let d ← Text.hexDigit? d
  return ((a * 16 + b) * 16 + c) * 16 + d

/-- The character that a one-letter escape stands for. -/
def escaped? : Char → Option Char
  | '"' => some '"'
  | '\\' => some '\\'
  | '/' => some '/'
  | 'b' => some '\x08'
  | 'f' => some '\x0c'
  | 'n' => some '\n'
  | 'r' => some '\r'
  | 't' => some '\t'
  | _ => none

/-- Reads a string up to its closing quote, collecting in reverse the code
points it spells; an escape of four digits contributes its 16-bit unit. -/
def scanText (units : List Nat) : List Char → Option (List Nat × List Char)
  | [] => none
  | '"' :: rest => some (units, rest)
  | '\\' :: 'u' :: a :: b :: c :: d :: rest =>
    match unit? a b c d with
    | some unit => scanText (unit :: units) rest
    | none => none
  | '\\' :: c :: rest =>
    match escaped? c with
    | some char => scanText (char.toNat :: units) rest
    | none => none
  | c :: rest => if c < ' ' || c == '\\' then none else scanText (c.toNat :: units) rest

/-- Whether a unit opens a surrogate pair. -/
def isLeading (unit : Nat) : Bool :=
  0xD800 ≤ unit && unit < 0xDC00

/-- Whether a unit closes a surrogate pair. -/
def isTrailing (unit : Nat) : Bool :=
  0xDC00 ≤ unit && unit < 0xE000

/-- Joins the surrogate pairs of a reversed list of units in front of the
characters already read; none if a surrogate stays alone. -/
def joinUnits (chars : List Char) : List Nat → Option (List Char)
  | [] => some chars
  | unit :: rest =>
    if isTrailing unit then
      match rest with
      | leading :: rest =>
        if isLeading leading then
          joinUnits
            (Char.ofNat (0x10000 + (leading - 0xD800) * 0x400 + (unit - 0xDC00)) :: chars)
            rest
        else none
      | [] => none
    else if isLeading unit then none
    else joinUnits (Char.ofNat unit :: chars) rest

/-- The decimal digits at the front, with what follows them. -/
def scanDigits (text : List Char) : List Nat × List Char :=
  ((text.takeWhile Char.isDigit).map fun c => c.toNat - '0'.toNat,
    text.dropWhile Char.isDigit)

/-- The digits after a decimal point, if there is a point. -/
def scanFraction : List Char → Option (List Nat × List Char)
  | '.' :: rest =>
    match scanDigits rest with
    | ([], _) => none
    | found => some found
  | rest => some ([], rest)

/-- The digits of an exponent with their sign, past the letter. -/
def scanExponentDigits (negative : Bool) (text : List Char) :
    Option (Option (Bool × List Nat) × List Char) :=
  match scanDigits text with
  | ([], _) => none
  | (digits, rest) => some (some (negative, digits), rest)

/-- The exponent, if there is one. -/
def scanExponent : List Char → Option (Option (Bool × List Nat) × List Char)
  | c :: rest =>
    if c == 'e' || c == 'E' then
      match rest with
      | '+' :: rest => scanExponentDigits false rest
      | '-' :: rest => scanExponentDigits true rest
      | rest => scanExponentDigits false rest
    else some (none, c :: rest)
  | [] => some (none, [])

/-- A number past its sign.  A leading zero stands alone. -/
def scanUnsigned (negative : Bool) (text : List Char) : Option (Numeral × List Char) :=
  match scanDigits text with
  | ([], _) => none
  | (0 :: _ :: _, _) => none
  | (whole, rest) =>
    match scanFraction rest with
    | none => none
    | some (fraction, rest) =>
      match scanExponent rest with
      | none => none
      | some (exponent, rest) => some (⟨negative, whole, fraction, exponent⟩, rest)

/-- The lexeme at the front of text that starts with no blank. -/
def front : List Char → Option (Lexeme × List Char)
  | [] => none
  | '[' :: rest => some (.openBracket, rest)
  | ']' :: rest => some (.closeBracket, rest)
  | '\x7b' :: rest => some (.openBrace, rest)
  | '\x7d' :: rest => some (.closeBrace, rest)
  | ',' :: rest => some (.comma, rest)
  | ':' :: rest => some (.colon, rest)
  | 'n' :: 'u' :: 'l' :: 'l' :: rest => some (.null, rest)
  | 't' :: 'r' :: 'u' :: 'e' :: rest => some (.boolean true, rest)
  | 'f' :: 'a' :: 'l' :: 's' :: 'e' :: rest => some (.boolean false, rest)
  | '"' :: rest =>
    match scanText [] rest with
    | some (units, rest) => some (.text ((joinUnits [] units).map String.ofList), rest)
    | none => some (.broken, [])
  | '-' :: rest =>
    match scanUnsigned true rest with
    | some (numeral, rest) => some (.number numeral, rest)
    | none => some (.broken, [])
  | c :: rest =>
    match scanUnsigned false (c :: rest) with
    | some (numeral, rest) => some (.number numeral, rest)
    | none => some (.broken, [])

/-- The next lexeme, past any blanks; none at the end of the text. -/
def next? (text : List Char) : Option (Lexeme × List Char) :=
  front (text.dropWhile isBlank)

theorem scanText_shorter {units found : List Nat} {text rest : List Char}
    (scanned : scanText units text = some (found, rest)) :
    rest.length < text.length := by
  fun_induction scanText units text with
  | case1 => simp at scanned
  | case2 => simp_all
  | case3 units a b c d tail unit _ ih =>
    have bound := ih scanned
    simp only [List.length_cons]
    omega
  | case4 => simp at scanned
  | case5 units c tail _ char _ ih =>
    have bound := ih scanned
    simp only [List.length_cons]
    omega
  | case6 => simp at scanned
  | case7 => simp at scanned
  | case8 units c tail _ _ _ _ ih =>
    have bound := ih scanned
    simp only [List.length_cons]
    omega

theorem scanDigits_rest_le (text : List Char) :
    (scanDigits text).2.length ≤ text.length :=
  (List.dropWhile_sublist Char.isDigit).length_le

theorem scanDigits_shorter {text : List Char} (found : (scanDigits text).1 ≠ []) :
    (scanDigits text).2.length < text.length := by
  simp only [scanDigits, ne_eq, List.map_eq_nil_iff] at found ⊢
  have whole : (text.takeWhile Char.isDigit).length + (text.dropWhile Char.isDigit).length =
      text.length := by
    rw [← List.length_append, List.takeWhile_append_dropWhile]
  have positive := List.length_pos_iff.2 found
  omega

theorem scanFraction_rest_le {text rest : List Char} {fraction : List Nat}
    (scanned : scanFraction text = some (fraction, rest)) :
    rest.length ≤ text.length := by
  unfold scanFraction at scanned
  split at scanned
  · rename_i tail
    have bound := scanDigits_rest_le tail
    split at scanned <;> grind
  · grind

theorem scanExponentDigits_rest_le {negative : Bool} {text rest : List Char}
    {exponent : Option (Bool × List Nat)}
    (scanned : scanExponentDigits negative text = some (exponent, rest)) :
    rest.length ≤ text.length := by
  unfold scanExponentDigits at scanned
  have bound := scanDigits_rest_le text
  split at scanned <;> grind

theorem scanExponent_rest_le {text rest : List Char}
    {exponent : Option (Bool × List Nat)}
    (scanned : scanExponent text = some (exponent, rest)) :
    rest.length ≤ text.length := by
  unfold scanExponent at scanned
  split at scanned
  · split at scanned
    · split at scanned
      all_goals
        have bound := scanExponentDigits_rest_le scanned
        grind
    · grind
  · grind

theorem scanUnsigned_shorter {negative : Bool} {text rest : List Char} {numeral : Numeral}
    (scanned : scanUnsigned negative text = some (numeral, rest)) :
    rest.length < text.length := by
  unfold scanUnsigned at scanned
  split at scanned
  · simp at scanned
  · simp at scanned
  · rename_i whole afterWhole notEmpty _ cut
    have bound : afterWhole.length < text.length := by
      have digits : (scanDigits text).1 ≠ [] := by
        rw [cut]
        exact notEmpty
      have shorter := scanDigits_shorter digits
      rwa [cut] at shorter
    split at scanned
    · simp at scanned
    · rename_i fraction afterFraction fractionScanned
      have fractionBound := scanFraction_rest_le fractionScanned
      split at scanned
      · simp at scanned
      · rename_i exponent afterExponent exponentScanned
        have exponentBound := scanExponent_rest_le exponentScanned
        grind

theorem front_shorter {text rest : List Char} {lexeme : Lexeme}
    (found : front text = some (lexeme, rest)) : rest.length < text.length := by
  unfold front at found
  split at found
  all_goals try grind
  · split at found
    · rename_i scanned
      have bound := scanText_shorter scanned
      grind
    · grind
  · split at found
    · rename_i scanned
      have bound := scanUnsigned_shorter scanned
      grind
    · grind
  · split at found
    · rename_i scanned
      have bound := scanUnsigned_shorter scanned
      grind
    · grind

/-- Each lexeme takes at least one character. -/
theorem next?_shorter {text rest : List Char} {lexeme : Lexeme}
    (found : next? text = some (lexeme, rest)) : rest.length < text.length :=
  Nat.lt_of_lt_of_le (front_shorter found) (List.dropWhile_sublist isBlank).length_le

end Lexeme

end Json

end TreeLint
