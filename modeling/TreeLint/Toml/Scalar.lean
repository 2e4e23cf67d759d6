import TreeLint.Text.Digits

/-!
# Scalars of TOML

The written forms of strings, numbers and dates.  Strings are decoded; of
numbers and dates only the form is checked, since no setting is a number or a
date.  Some numbers have a form and no value, because they are too large or
written too loosely.  Readers take text from the front and answer with the rest, or with
nothing if the form is not valid.
-/

namespace TreeLint

namespace Toml

/-- The character whose number is written by `count` hexadecimal digits, and
the text behind them. -/
def codePoint? (count : Nat) (text : List Char) : Option (Char × List Char) :=
  match (text.take count).mapM Text.hexDigit? with
  | none => none
  | some values =>
    let code := Text.ofDigits 16 values
    if values.length == count && (code < 0xD800 || (0xDFFF < code && code < 0x110000)) then
      some (Char.ofNat code, text.drop count)
    else none

theorem codePoint?_rest_le {count : Nat} {text rest : List Char} {c : Char}
    (found : codePoint? count text = some (c, rest)) : rest.length ≤ text.length := by
  unfold codePoint? at found
  split at found
  · simp at found
  · simp only [Option.ite_none_right_eq_some, Option.some.injEq, Prod.mk.injEq] at found
    obtain ⟨_, _, rfl⟩ := found
    simp

/-- Control characters that no text may contain: all but the tab. -/
def isForbidden (c : Char) : Bool :=
  (c < ' ' && c != '\t') || c == '\x7f'

/-- The character of an escape, past the backslash. -/
def escape? : List Char → Option (Char × List Char)
  | 'b' :: rest => some ('\x08', rest)
  | 't' :: rest => some ('\t', rest)
  | 'n' :: rest => some ('\n', rest)
  | 'f' :: rest => some ('\x0c', rest)
  | 'r' :: rest => some ('\r', rest)
  | 'e' :: rest => some ('\x1b', rest)
  | '"' :: rest => some ('"', rest)
  | '\\' :: rest => some ('\\', rest)
  | 'x' :: rest => codePoint? 2 rest
  | 'u' :: rest => codePoint? 4 rest
  | 'U' :: rest => codePoint? 8 rest
  | _ => none

theorem escape?_shorter {text rest : List Char} {c : Char}
    (found : escape? text = some (c, rest)) : rest.length < text.length := by
  unfold escape? at found
  split at found
  case h_9 | h_10 | h_11 =>
    have bound := codePoint?_rest_le found
    simp only [List.length_cons]
    omega
  all_goals simp_all

/-- A string in double quotes, past the opening one. -/
def basicString? (done text : List Char) : Option (String × List Char) :=
  match text with
  | '"' :: rest => some (String.ofList done.reverse, rest)
  | '\\' :: rest =>
    match _found : escape? rest with
    | some (c, behind) => basicString? (c :: done) behind
    | none => none
  | c :: rest => if isForbidden c then none else basicString? (c :: done) rest
  | [] => none
termination_by text.length
decreasing_by
  · have shorter := escape?_shorter _found
    simp only [List.length_cons]
    omega
  · simp

def literalString? (done : List Char) : List Char → Option (String × List Char)
  | '\'' :: rest => some (String.ofList done.reverse, rest)
  | c :: rest => if isForbidden c then none else literalString? (c :: done) rest
  | [] => none

def skipNewline : List Char → List Char
  | '\r' :: '\n' :: rest => rest
  | '\n' :: rest => rest
  | rest => rest

def isSpace (c : Char) : Bool :=
  c == ' ' || c == '\t'

/-- Passes over spaces, tabs and line breaks. -/
def skipLines : List Char → List Char
  | ' ' :: rest => skipLines rest
  | '\t' :: rest => skipLines rest
  | '\n' :: rest => skipLines rest
  | '\r' :: '\n' :: rest => skipLines rest
  | rest => rest

theorem skipLines_length_le (text : List Char) : (skipLines text).length ≤ text.length := by
  fun_induction skipLines text <;> grind

/-- Past a backslash: whether only spaces are left on the line, in which case
the break and everything blank behind it is passed over. -/
def lineContinuation? (text : List Char) : Option (List Char) :=
  match text.dropWhile isSpace with
  | '\n' :: rest => some (skipLines rest)
  | '\r' :: '\n' :: rest => some (skipLines rest)
  | _ => none

theorem lineContinuation?_shorter {text rest : List Char}
    (found : lineContinuation? text = some rest) : rest.length < text.length := by
  have bound := (List.dropWhile_sublist (l := text) isSpace).length_le
  unfold lineContinuation? at found
  split at found
  case h_3 => simp at found
  all_goals
    rename_i behind front
    have shorter := skipLines_length_le behind
    rw [front] at bound
    simp only [Option.some.injEq] at found
    simp only [List.length_cons] at bound
    rw [found] at shorter
    omega

/-- The end of a string in tripled quotes.  Up to two more quotes in front of the
closing ones belong to the string. -/
def tripleEnd? (quote : Char) (text : List Char) : Option (List Char × List Char) :=
  let quotes := (text.takeWhile (· == quote)).length
  if quotes < 3 then none
  else
    let extra := min (quotes - 3) 2
    some (List.replicate extra quote, text.drop (extra + 3))

/-- A string in tripled double quotes, past the opening ones. -/
def multilineBasic? (done text : List Char) : Option (String × List Char) :=
  match tripleEnd? '"' text with
  | some (extra, rest) => some (String.ofList (extra ++ done).reverse, rest)
  | none =>
    match text with
    | '\\' :: rest =>
      match _continued : lineContinuation? rest with
      | some behind => multilineBasic? done behind
      | none =>
        match _found : escape? rest with
        | some (c, behind) => multilineBasic? (c :: done) behind
        | none => none
    | '\r' :: '\n' :: rest => multilineBasic? ('\n' :: '\r' :: done) rest
    | '\n' :: rest => multilineBasic? ('\n' :: done) rest
    | c :: rest => if isForbidden c then none else multilineBasic? (c :: done) rest
    | [] => none
termination_by text.length
decreasing_by
  · have shorter := lineContinuation?_shorter _continued
    simp only [List.length_cons]
    omega
  · have shorter := escape?_shorter _found
    simp only [List.length_cons]
    omega
  · simp only [List.length_cons]
    omega
  · simp
  · simp

/-- A string in tripled single quotes, past the opening ones. -/
def multilineLiteral? (done text : List Char) : Option (String × List Char) :=
  match tripleEnd? '\'' text with
  | some (extra, rest) => some (String.ofList (extra ++ done).reverse, rest)
  | none =>
    match text with
    | '\r' :: '\n' :: rest => multilineLiteral? ('\n' :: '\r' :: done) rest
    | '\n' :: rest => multilineLiteral? ('\n' :: done) rest
    | c :: rest => if isForbidden c then none else multilineLiteral? (c :: done) rest
    | [] => none

/-- A string of any of the four sorts. -/
def string? (text : List Char) : Option (String × List Char) :=
  match text with
  | '"' :: '"' :: '"' :: rest => multilineBasic? [] (skipNewline rest)
  | '"' :: rest => basicString? [] rest
  | '\'' :: '\'' :: '\'' :: rest => multilineLiteral? [] (skipNewline rest)
  | '\'' :: rest => literalString? [] rest
  | _ => none

/-! ## Numbers -/

/-- The digits of a number in which single underscores may stand between
digits. -/
def digits? (isDigit : Char → Bool) (text : List Char) : Option (List Char) :=
  let groups := (String.ofList text).splitOn "_"
  if groups.all fun group => !group.isEmpty && group.toList.all isDigit then
    some (text.filter (· != '_'))
  else none

def isHexDigit (c : Char) : Bool :=
  (Text.hexDigit? c).isSome

def isOctalDigit (c : Char) : Bool :=
  '0' ≤ c && c ≤ '7'

def isBinaryDigit (c : Char) : Bool :=
  c == '0' || c == '1'

/-- The number that digits of a base write. -/
def valueIn (base : Nat) (digits : List Char) : Nat :=
  Text.ofDigits base (digits.map fun c => (Text.hexDigit? c).getD 0)

/-- A decimal number without leading zeros. -/
def decimal? (text : List Char) : Option Nat :=
  match text with
  | '0' :: _ :: _ => none
  | _ => (digits? Char.isDigit text).map Text.numeral

inductive Sign where
  | plus
  | minus
deriving DecidableEq, Repr

/-- The sign in front of a number, if there is one, and the text behind it. -/
def Sign.split : List Char → Option Sign × List Char
  | '+' :: rest => (some .plus, rest)
  | '-' :: rest => (some .minus, rest)
  | rest => (none, rest)

def integerLimit : Nat := 0x100000000000000000000000000000000

/-- Digits of a base behind its mark, which may be missing, and whether they are
the digits of a number of at most 128 bits. -/
def marked? (base : Nat) (isDigit : Char → Bool) (text : List Char) : Option Bool :=
  if text.isEmpty then some false
  else (digits? isDigit text).map fun digits => valueIn base digits < integerLimit

/-- Whether text has the loose form of a decimal number: digits that do not start
with a zero, and then groups behind underscores of which only the borders are
looked at, as if they were hexadecimal. -/
def isLoose (text : List Char) : Bool :=
  let bordered (group : List Char) : Bool :=
    (group.getLast?.map isHexDigit).getD false
  let opened (group : List Char) : Bool :=
    (group.head?.map isHexDigit).getD false
  match (String.ofList text).splitOn "_" |>.map String.toList with
  | first :: second :: rest =>
    let groups := second :: rest
    !first.isEmpty && first.all Char.isDigit && first.head? != some '0' &&
      groups.all opened && groups.dropLast.all bordered &&
      !text.any fun c => c == '.' || c == 'e' || c == 'E' || c == ' '
  | _ => false

/-- Whether text has the form of a whole number, and if so, whether it has a value:
the value has at most 128 bits. -/
def integer? (text : List Char) : Option Bool :=
  match text with
  | '0' :: 'x' :: rest => marked? 16 isHexDigit rest
  | '0' :: 'o' :: rest => marked? 8 isOctalDigit rest
  | '0' :: 'b' :: rest => marked? 2 isBinaryDigit rest
  | text =>
    let (sign, rest) := Sign.split text
    match decimal? rest with
    | some value =>
      some (if sign == some .minus then value ≤ integerLimit / 2 else value < integerLimit)
    | none => if isLoose rest then some false else none

/-- Whether `significand * 10 ^ exponent` is in the range of doubles. -/
def isFinite (significand : Nat) (exponent : Int) : Bool :=
  if significand == 0 then true
  else
    let size : Int := (toString significand).length + exponent
    if 310 < size then false
    else if size < 300 then true
    else
      !(if 0 ≤ exponent then Float.ofScientific significand false exponent.toNat
        else Float.ofScientific significand true (-exponent).toNat).isInf

/-- Whether text has the form of a number with a fraction or an exponent, or of one
of the special numbers, and if so, whether it has a value. -/
def float? (text : List Char) : Option Bool :=
  let (_, rest) := Sign.split text
  if rest == ['i', 'n', 'f'] || rest == ['n', 'a', 'n'] then some true
  else
    let mantissa := rest.takeWhile fun c => c != 'e' && c != 'E'
    let exponent := (rest.dropWhile fun c => c != 'e' && c != 'E').drop 1
    let hasExponent := mantissa.length < rest.length
    let whole := mantissa.takeWhile (· != '.')
    let fraction := (mantissa.dropWhile (· != '.')).drop 1
    let hasFraction := whole.length < mantissa.length
    let (exponentSign, exponentDigits) := Sign.split exponent
    if !hasExponent && !hasFraction then none
    else do
      let _ ← decimal? whole
      let fraction ← if hasFraction then digits? Char.isDigit fraction else some []
      let exponentDigits ← if hasExponent then digits? Char.isDigit exponentDigits else some []
      let significand := Text.numeral (whole.filter (· != '_') ++ fraction)
      let size := Text.numeral exponentDigits
      let exponent : Int := if exponentSign == some .minus then -(size : Int) else size
      return isFinite significand (exponent - fraction.length)

/-- Whether text has the form of a number, and if so, whether it has a value. -/
def number? (text : List Char) : Option Bool :=
  (integer? text).or (float? text)

/-! ## Dates and times -/

def fixed? (count : Nat) (text : List Char) : Option (Nat × List Char) :=
  let digits := text.take count
  if digits.length == count && digits.all Char.isDigit then
    some (Text.numeral digits, text.drop count)
  else none

def daysIn (year month : Nat) : Nat :=
  if month == 2 then
    if (year % 4 == 0 && year % 100 != 0) || year % 400 == 0 then 29 else 28
  else if month == 4 || month == 6 || month == 9 || month == 11 then 30
  else 31

/-- A calendar date, and the text behind it. -/
def date? (text : List Char) : Option (List Char) := do
  let (year, rest) ← fixed? 4 text
  let '-' :: rest := rest | none
  let (month, rest) ← fixed? 2 rest
  let '-' :: rest := rest | none
  let (day, rest) ← fixed? 2 rest
  if 1 ≤ month && month ≤ 12 && 1 ≤ day && day ≤ daysIn year month then return rest
  else none

/-- The seconds of a time with an optional fraction, and the text behind. -/
def seconds? : List Char → Option (List Char)
  | ':' :: rest => do
    let (second, rest) ← fixed? 2 rest
    if 60 < second then none
    match rest with
    | '.' :: rest =>
      let behind := rest.dropWhile Char.isDigit
      if behind.length < rest.length then return behind else none
    | rest => return rest
  | rest => some rest

/-- A time of day, whose seconds may be left out, and the text behind it. -/
def time? (text : List Char) : Option (List Char) := do
  let (hour, rest) ← fixed? 2 text
  let ':' :: rest := rest | none
  let (minute, rest) ← fixed? 2 rest
  if 23 < hour || 59 < minute then none
  seconds? rest

/-- Whether text is the end of a time: nothing, or an offset. -/
def isOffset (text : List Char) : Bool :=
  match text with
  | [] => true
  | ['Z'] => true
  | ['z'] => true
  | sign :: rest =>
    if sign == '+' || sign == '-' then
      match fixed? 2 rest with
      | some (hour, ':' :: rest) =>
        match fixed? 2 rest with
        | some (minute, []) => hour ≤ 23 && minute ≤ 59
        | _ => false
      | _ => false
    else false

/-- Whether text is a date, a time, or a date with a time and perhaps an
offset. -/
def isDate (text : List Char) : Bool :=
  match date? text with
  | some [] => true
  | some (separator :: rest) =>
    (separator == 'T' || separator == 't' || separator == ' ') &&
      match time? rest with
      | some rest => isOffset rest
      | none => false
  | none => time? text == some []

end Toml

end TreeLint
