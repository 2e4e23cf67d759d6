import Mathlib.Data.List.Induction
import Mathlib.Data.List.TakeWhile
import Mathlib.Data.Nat.Digits.Defs
import Mathlib.Logic.Function.Iterate
import TreeLint.Violation

/-!
# Filling templates

A template is read once from left to right.  An opening brace starts a placeholder
if the text up to the next closing brace numbers one of the parameters; then the
parameter is written and reading goes on behind the closing brace.  Any other
opening brace is written as it is, and reading goes on right behind it.

What is written is never read again.  So a template may be cut wherever every
opening brace before the cut is closed before it, a placeholder stands for its
parameter whatever that contains, and a template without placeholders stands for
itself.
-/

namespace TreeLint

namespace Message

open Text

/-! ## Cutting a text at a character -/

theorem bne_of_absent {mark : Char} {text : List Char} (absent : mark ∉ text) :
    ∀ c ∈ text, (c != mark) = true := by
  intro c member
  rw [bne_iff_ne]
  rintro rfl
  exact absent member

theorem dropWhile_of_absent {mark : Char} {text : List Char} (absent : mark ∉ text) :
    text.dropWhile (· != mark) = [] :=
  List.dropWhile_eq_nil_iff.mpr (bne_of_absent absent)

theorem cut_at_first {mark : Char} {plain : List Char} (absent : mark ∉ plain)
    (behind : List Char) :
    (plain ++ mark :: behind).takeWhile (· != mark) = plain ∧
      (plain ++ mark :: behind).dropWhile (· != mark) = mark :: behind := by
  have others := bne_of_absent absent
  rw [List.takeWhile_append_of_pos others, List.dropWhile_append_of_pos others]
  simp

theorem first_cut_unique {mark : Char} {plain other behind rest : List Char}
    (absent : mark ∉ plain) (otherAbsent : mark ∉ other)
    (same : plain ++ mark :: behind = other ++ mark :: rest) : plain = other ∧ behind = rest := by
  have ⟨before, after⟩ := cut_at_first absent behind
  have ⟨otherBefore, otherAfter⟩ := cut_at_first otherAbsent rest
  rw [same] at before after
  constructor
  · exact before.symm.trans otherBefore
  · exact (List.cons.inj (after.symm.trans otherAfter)).2

/-! ## Numbers between braces -/

/-- The text consists of digits, at least one, after at most one plus sign, and
they write the number. -/
def Numbers (content : List Char) (number : Nat) : Prop :=
  ∃ digits : List Char, digits ≠ [] ∧ (∀ digit ∈ digits, digit.isDigit = true) ∧
    (content = digits ∨ content = '+' :: digits) ∧
    number = Nat.ofDigits 10 (digits.map digitValue).reverse

theorem numeral_eq_ofDigits (digits : List Char) :
    numeral digits = Nat.ofDigits 10 (digits.map digitValue).reverse := by
  induction digits using List.reverseRecOn with
  | nil => rfl
  | append_singleton digits digit ih =>
      have last : numeral (digits ++ [digit]) = numeral digits * 10 + digitValue digit := by
        simp [numeral, Text.ofDigits]
      rw [last, ih, List.map_append, List.map_singleton, List.reverse_append,
        List.reverse_singleton, List.singleton_append, Nat.ofDigits_cons]
      omega

/-- Reading a number passes over its sign. -/
theorem skipPlus_append {content digits : List Char} (someDigit : digits ≠ [])
    (allDigits : ∀ digit ∈ digits, digit.isDigit = true)
    (written : content = digits ∨ content = '+' :: digits) (rest : List Char) :
    skipPlus (content ++ rest) = digits ++ rest := by
  rcases written with rfl | rfl
  · obtain ⟨digit, others, rfl⟩ := List.exists_cons_of_ne_nil someDigit
    have isDigit := allDigits digit List.mem_cons_self
    rw [List.cons_append]
    unfold skipPlus
    split
    · rename_i tail isPlus
      cases isPlus
      cases isDigit
    · rfl
  · rfl

theorem eq_or_eq_of_skipPlus (content : List Char) :
    content = skipPlus content ∨ content = '+' :: skipPlus content := by
  unfold skipPlus
  split
  · exact .inr rfl
  · exact .inl rfl

theorem Numbers.no_closing {content : List Char} {number : Nat}
    (numbers : Numbers content number) : '\x7d' ∉ content := by
  obtain ⟨digits, -, allDigits, written, -⟩ := numbers
  intro member
  have inDigits : '\x7d' ∈ digits := by
    rcases written with rfl | rfl
    · exact member
    · exact (List.mem_cons.mp member).resolve_left (by decide)
  cases allDigits _ inDigits

theorem exists_numbers_of_placeholder? {parameters : List String} {text rest : List Char}
    {value : String} (found : placeholder? parameters text = some (value, rest)) :
    ∃ content number, text = content ++ '\x7d' :: rest ∧ Numbers content number ∧
      parameters[number]? = some value := by
  unfold placeholder? at found
  split at found
  · rename_i tail closed
    dsimp only at found
    split at found
    · cases found
    · rename_i someDigit
      obtain ⟨parameter, isParameter, same⟩ := Option.map_eq_some_iff.mp found
      cases same
      have parts : (skipPlus text).takeWhile Char.isDigit ++ '\x7d' :: rest = skipPlus text := by
        rw [← closed, List.takeWhile_append_dropWhile]
      have allDigits : ∀ digit ∈ (skipPlus text).takeWhile Char.isDigit,
          digit.isDigit = true := fun _ member => List.mem_takeWhile_imp member
      rw [List.isEmpty_iff] at someDigit
      rw [numeral_eq_ofDigits] at isParameter
      rcases eq_or_eq_of_skipPlus text with unsigned | signed
      · exact ⟨_, _, unsigned.trans parts.symm, ⟨_, someDigit, allDigits, .inl rfl, rfl⟩,
          isParameter⟩
      · refine ⟨_, _, ?_, ⟨_, someDigit, allDigits, .inr rfl, rfl⟩, isParameter⟩
        rw [List.cons_append, parts]
        exact signed
  · cases found

theorem placeholder?_of_numbers {parameters : List String} {content : List Char} {number : Nat}
    {value : String} (numbers : Numbers content number)
    (isParameter : parameters[number]? = some value) (rest : List Char) :
    placeholder? parameters (content ++ '\x7d' :: rest) = some (value, rest) := by
  obtain ⟨digits, someDigit, allDigits, written, rfl⟩ := numbers
  have taken : (digits ++ '\x7d' :: rest).takeWhile Char.isDigit = digits := by
    rw [List.takeWhile_append_of_pos allDigits, List.takeWhile_cons_of_neg (by decide),
      List.append_nil]
  have dropped : (digits ++ '\x7d' :: rest).dropWhile Char.isDigit = '\x7d' :: rest := by
    rw [List.dropWhile_append_of_pos allDigits, List.dropWhile_cons_of_neg (by decide)]
  have notEmpty : digits.isEmpty = false := by simpa using someDigit
  unfold placeholder?
  rw [skipPlus_append someDigit allDigits written, taken, dropped]
  simp [notEmpty, numeral_eq_ofDigits, isParameter]

/-- A placeholder is a number of a parameter up to the next closing brace. -/
theorem placeholder?_eq_some_iff (parameters : List String) (text rest : List Char)
    (value : String) :
    placeholder? parameters text = some (value, rest) ↔
      ∃ content number, text = content ++ '\x7d' :: rest ∧ Numbers content number ∧
        parameters[number]? = some value := by
  constructor
  · exact exists_numbers_of_placeholder?
  · rintro ⟨content, number, rfl, numbers, isParameter⟩
    exact placeholder?_of_numbers numbers isParameter rest

/-- Whether a placeholder starts is decided by the text up to the next closing
brace, so what follows behind a closing brace does not matter. -/
theorem placeholder?_append (parameters : List String) {text : List Char}
    (closing : '\x7d' ∈ text) (rest : List Char) :
    placeholder? parameters (text ++ rest) =
      (placeholder? parameters text).map fun (value, behind) => (value, behind ++ rest) := by
  obtain ⟨before, after, rfl, absent⟩ := List.eq_append_cons_of_mem closing
  apply Option.ext
  rintro ⟨value, behind⟩
  rw [placeholder?_eq_some_iff, Option.map_eq_some_iff]
  constructor
  · rintro ⟨content, number, same, numbers, isParameter⟩
    rw [List.append_assoc, List.cons_append] at same
    obtain ⟨rfl, rfl⟩ := first_cut_unique absent numbers.no_closing same
    exact ⟨(value, after), placeholder?_of_numbers numbers isParameter after, rfl⟩
  · rintro ⟨⟨found, tail⟩, isPlaceholder, same⟩
    cases same
    obtain ⟨content, number, text, numbers, isParameter⟩ :=
      exists_numbers_of_placeholder? isPlaceholder
    refine ⟨content, number, ?_, numbers, isParameter⟩
    rw [text, List.append_assoc, List.cons_append]

/-! ## What one character does -/

theorem substitute_other {c : Char} (other : c ≠ '\x7b') (parameters : List String)
    (rest : List Char) : substitute parameters (c :: rest) = c :: substitute parameters rest := by
  rw [substitute, if_neg (by simpa using other)]

theorem substitute_placeholder {parameters : List String} {text behind : List Char}
    {value : String} (isPlaceholder : placeholder? parameters text = some (value, behind)) :
    substitute parameters ('\x7b' :: text) = value.toList ++ substitute parameters behind := by
  rw [substitute, if_pos (by decide)]
  split
  · rename_i found
    rw [isPlaceholder] at found
    cases found
    rfl
  · rename_i absent
    rw [isPlaceholder] at absent
    cases absent

theorem substitute_brace {parameters : List String} {text : List Char}
    (noPlaceholder : placeholder? parameters text = none) :
    substitute parameters ('\x7b' :: text) = '\x7b' :: substitute parameters text := by
  rw [substitute, if_pos (by decide)]
  split
  · rename_i found
    rw [noPlaceholder] at found
    cases found
  · rfl

/-- Text without a brace is copied. -/
theorem substitute_append {plain : List Char} (noBrace : '\x7b' ∉ plain)
    (parameters : List String) (rest : List Char) :
    substitute parameters (plain ++ rest) = plain ++ substitute parameters rest := by
  induction plain with
  | nil => rfl
  | cons c plain ih =>
      rw [List.mem_cons, not_or] at noBrace
      rw [List.cons_append, substitute_other (Ne.symm noBrace.1), ih noBrace.2]
      rfl

theorem substitute_plain {plain : List Char} (noBrace : '\x7b' ∉ plain)
    (parameters : List String) : substitute parameters plain = plain := by
  have whole := substitute_append noBrace parameters []
  rwa [List.append_nil, substitute, List.append_nil] at whole

/-! ## Cutting a template -/

/-- Every opening brace is followed by a closing one. -/
def Closed (text : List Char) : Prop :=
  ∀ before after, text = before ++ '\x7b' :: after → '\x7d' ∈ after

theorem Closed.of_append (before : List Char) {text : List Char}
    (closed : Closed (before ++ text)) : Closed text := by
  rintro front after rfl
  exact closed (before ++ front) after (List.append_assoc ..).symm

theorem closed_cons_iff {c : Char} {text : List Char} :
    Closed (c :: text) ↔ (c = '\x7b' → '\x7d' ∈ text) ∧ Closed text := by
  constructor
  · intro closed
    refine ⟨?_, Closed.of_append [c] closed⟩
    rintro rfl
    exact closed [] text rfl
  · rintro ⟨first, later⟩ before after same
    cases before with
    | nil =>
        cases same
        exact first rfl
    | cons other before =>
        cases same
        exact later before after rfl

def decideClosed : (text : List Char) → Decidable (Closed text)
  | [] => isTrue (by intro before after same; simp at same)
  | _ :: text =>
      have : Decidable (Closed text) := decideClosed text
      decidable_of_iff _ closed_cons_iff.symm

instance : DecidablePred Closed := decideClosed

theorem substitute_append_of_closed (parameters : List String) {text : List Char}
    (closed : Closed text) (rest : List Char) :
    substitute parameters (text ++ rest) =
      substitute parameters text ++ substitute parameters rest := by
  -- each brace of the first part finds its closing brace before the cut, so it opens
  -- the same placeholder, or none, with and without the second part
  fun_induction substitute parameters text with
  | case1 => rfl
  | case2 c text isBrace value behind isPlaceholder ih =>
      obtain rfl : c = '\x7b' := by simpa using isBrace
      have extended := placeholder?_append parameters (closed [] text rfl) rest
      rw [isPlaceholder, Option.map_some] at extended
      obtain ⟨content, -, rfl, -⟩ := exists_numbers_of_placeholder? isPlaceholder
      have closedBehind : Closed behind := by
        apply Closed.of_append ('\x7b' :: content ++ ['\x7d'])
        simpa using closed
      rw [List.cons_append, substitute_placeholder extended, ih closedBehind, List.append_assoc]
  | case3 c text isBrace noPlaceholder ih =>
      obtain rfl : c = '\x7b' := by simpa using isBrace
      have extended := placeholder?_append parameters (closed [] text rfl) rest
      rw [noPlaceholder, Option.map_none] at extended
      rw [List.cons_append, substitute_brace extended, ih (closed_cons_iff.mp closed).2,
        List.cons_append]
  | case4 c text notBrace ih =>
      have other : c ≠ '\x7b' := by simpa using notBrace
      rw [List.cons_append, substitute_other other, ih (closed_cons_iff.mp closed).2,
        List.cons_append]

/-! ## Templates without placeholders -/

/-- The text between an opening brace and the next closing one never numbers a
parameter. -/
def Inert (parameters : List String) (text : List Char) : Prop :=
  ∀ before content after, text = before ++ '\x7b' :: (content ++ '\x7d' :: after) →
    '\x7d' ∉ content → ∀ number, Numbers content number → parameters.length ≤ number

theorem inert_nil (text : List Char) : Inert [] text := by
  intro before content after _ _ number _
  exact Nat.zero_le number

theorem inert_cons_iff {parameters : List String} {c : Char} {text : List Char} :
    Inert parameters (c :: text) ↔
      (c = '\x7b' → placeholder? parameters text = none) ∧ Inert parameters text := by
  constructor
  · intro inert
    constructor
    · rintro rfl
      rw [Option.eq_none_iff_forall_ne_some]
      rintro ⟨value, behind⟩ found
      obtain ⟨content, number, rfl, numbers, isParameter⟩ :=
        exists_numbers_of_placeholder? found
      have beyond := inert [] content behind rfl numbers.no_closing number numbers
      rw [List.getElem?_eq_none beyond] at isParameter
      cases isParameter
    · rintro before content after rfl
      exact inert (c :: before) content after rfl
  · rintro ⟨first, later⟩ before content after same absent number numbers
    cases before with
    | nil =>
        cases same
        by_contra inside
        have isParameter := List.getElem?_eq_getElem (Nat.lt_of_not_le inside)
        have found := placeholder?_of_numbers numbers isParameter after
        rw [first rfl] at found
        cases found
    | cons other before =>
        cases same
        exact later before content after rfl absent number numbers

def decideInert (parameters : List String) :
    (text : List Char) → Decidable (Inert parameters text)
  | [] => isTrue (by intro before content after same; simp at same)
  | _ :: text =>
      have : Decidable (Inert parameters text) := decideInert parameters text
      decidable_of_iff _ inert_cons_iff.symm

instance (parameters : List String) : DecidablePred (Inert parameters) :=
  decideInert parameters

theorem substitute_of_inert {parameters : List String} {text : List Char}
    (inert : Inert parameters text) : substitute parameters text = text := by
  induction text with
  | nil => rw [substitute]
  | cons c text ih =>
      obtain ⟨first, later⟩ := inert_cons_iff.mp inert
      by_cases isBrace : c = '\x7b'
      · subst isBrace
        rw [substitute_brace (first rfl), ih later]
      · rw [substitute_other isBrace, ih later]

/-! ## The pass -/

/-- What follows an opening brace, cut at the next closing brace: the parameter
whose number stands before it, and the text behind it. -/
def offer? (parameters : List String) (text : List Char) : Option (String × List Char) :=
  match text.dropWhile (· != '\x7d') with
  | [] => none
  | _ :: behind => do
      let number ← word? (text.takeWhile (· != '\x7d'))
      let value ← parameters[number]?
      return (value, behind)

/-- A pass over a template: the text written so far, and the text still to be read. -/
structure Pass where
  written : List Char
  pending : List Char

/-- One turn of a pass copies the text before the next opening brace; then it writes
the parameter that is offered there, or else copies the brace.  The last turn
copies what is left. -/
def Pass.turn (parameters : List String) (pass : Pass) : Pass :=
  match pass.pending.dropWhile (· != '\x7b') with
  | [] => ⟨pass.written ++ pass.pending, []⟩
  | _ :: text =>
      let copied := pass.written ++ pass.pending.takeWhile (· != '\x7b')
      match offer? parameters text with
      | some (value, behind) => ⟨copied ++ value.toList, behind⟩
      | none => ⟨copied ++ ['\x7b'], text⟩

theorem word?_eq_some_iff (content : List Char) (number : Nat) :
    word? content = some number ↔ Numbers content number ∧ number < 2 ^ 64 := by
  have size : UInt64.size = 2 ^ 64 := rfl
  rw [word?, size]
  constructor
  · intro found
    split at found
    · cases found
    · rename_i accepted
      simp only [Bool.or_eq_true, List.isEmpty_iff, Bool.not_eq_true', List.all_eq_false,
        decide_eq_true_eq, not_or, not_exists, not_and, not_not, not_le] at accepted
      obtain ⟨⟨someDigit, allDigits⟩, small⟩ := accepted
      cases found
      exact ⟨⟨_, someDigit, allDigits, eq_or_eq_of_skipPlus content, numeral_eq_ofDigits _⟩, small⟩
  · rintro ⟨⟨digits, someDigit, allDigits, written, rfl⟩, small⟩
    have skipped := skipPlus_append someDigit allDigits written []
    rw [List.append_nil, List.append_nil] at skipped
    rw [← numeral_eq_ofDigits] at small ⊢
    rw [skipped, if_neg]
    simpa [someDigit] using ⟨allDigits, small⟩

/-- The next closing brace ends the digits of a placeholder, and a number beyond a
machine word belongs to no parameter. -/
theorem offer?_eq_placeholder? {parameters : List String} (fits : parameters.length ≤ 2 ^ 64)
    (text : List Char) : offer? parameters text = placeholder? parameters text := by
  apply Option.ext
  rintro ⟨value, rest⟩
  rw [placeholder?_eq_some_iff]
  unfold offer?
  by_cases closing : '\x7d' ∈ text
  · obtain ⟨before, after, rfl, absent⟩ := List.eq_append_cons_of_mem closing
    obtain ⟨taken, dropped⟩ := cut_at_first absent after
    simp only [taken, dropped, Option.bind_eq_bind, Option.bind_eq_some_iff, word?_eq_some_iff,
      Option.pure_def, Option.some.injEq, Prod.mk.injEq]
    constructor
    · rintro ⟨number, ⟨numbers, -⟩, parameter, isParameter, rfl, rfl⟩
      exact ⟨before, number, rfl, numbers, isParameter⟩
    · rintro ⟨content, number, same, numbers, isParameter⟩
      obtain ⟨rfl, rfl⟩ := first_cut_unique absent numbers.no_closing same
      have inside := (List.getElem?_eq_some_iff.mp isParameter).1
      exact ⟨number, ⟨numbers, by omega⟩, value, isParameter, rfl, rfl⟩
  · rw [dropWhile_of_absent closing]
    constructor
    · intro found
      cases found
    · rintro ⟨content, number, rfl, -⟩
      exact absurd (List.mem_append_right _ List.mem_cons_self) closing

/-- Everything that a turn can do. -/
theorem Pass.turn_cases {parameters : List String} (fits : parameters.length ≤ 2 ^ 64)
    (pass : Pass) :
    ('\x7b' ∉ pass.pending ∧ pass.turn parameters = ⟨pass.written ++ pass.pending, []⟩) ∨
    ∃ plain text, pass.pending = plain ++ '\x7b' :: text ∧ '\x7b' ∉ plain ∧
      ((placeholder? parameters text = none ∧
          pass.turn parameters = ⟨pass.written ++ plain ++ ['\x7b'], text⟩) ∨
        ∃ value behind, placeholder? parameters text = some (value, behind) ∧
          pass.turn parameters = ⟨pass.written ++ plain ++ value.toList, behind⟩) := by
  obtain ⟨written, pending⟩ := pass
  unfold turn
  by_cases opening : '\x7b' ∈ pending
  · right
    obtain ⟨plain, text, rfl, absent⟩ := List.eq_append_cons_of_mem opening
    obtain ⟨taken, dropped⟩ := cut_at_first absent text
    refine ⟨plain, text, rfl, absent, ?_⟩
    simp only [taken, dropped, offer?_eq_placeholder? fits]
    cases found : placeholder? parameters text with
    | none => exact .inl ⟨rfl, rfl⟩
    | some answer => exact .inr ⟨answer.1, answer.2, rfl, rfl⟩
  · left
    rw [dropWhile_of_absent opening]
    exact ⟨opening, rfl⟩

/-- One turn keeps the text that the pass ends with. -/
theorem Pass.written_turn {parameters : List String} (fits : parameters.length ≤ 2 ^ 64)
    (pass : Pass) :
    (pass.turn parameters).written ++ substitute parameters (pass.turn parameters).pending =
      pass.written ++ substitute parameters pass.pending := by
  rcases pass.turn_cases fits with
    ⟨absent, turned⟩ | ⟨plain, text, pending, absent, ⟨noPlaceholder, turned⟩ |
      ⟨value, behind, isPlaceholder, turned⟩⟩
  · rw [turned, substitute_plain absent, substitute, List.append_nil]
  · rw [turned, pending, substitute_append absent, substitute_brace noPlaceholder]
    simp
  · rw [turned, pending, substitute_append absent, substitute_placeholder isPlaceholder]
    simp

/-- One turn leaves fewer opening braces to be read; without one it is the last. -/
theorem Pass.pending_turn {parameters : List String} (fits : parameters.length ≤ 2 ^ 64)
    (pass : Pass) :
    (pass.turn parameters).pending = [] ∨
      (pass.turn parameters).pending.count '\x7b' < pass.pending.count '\x7b' := by
  rcases pass.turn_cases fits with
    ⟨-, turned⟩ | ⟨plain, text, pending, -, ⟨-, turned⟩ |
      ⟨value, behind, isPlaceholder, turned⟩⟩
  · exact .inl (by rw [turned])
  · right
    rw [turned, pending, List.count_append, List.count_cons_self]
    dsimp only
    omega
  · right
    obtain ⟨content, -, rfl, -⟩ := exists_numbers_of_placeholder? isPlaceholder
    rw [turned, pending, List.count_append, List.count_cons_self, List.count_append,
      List.count_cons_of_ne (by decide)]
    dsimp only
    omega

theorem Pass.iterate_turn_ended (parameters : List String) (turns : Nat)
    (written : List Char) : (turn parameters)^[turns] ⟨written, []⟩ = ⟨written, []⟩ := by
  apply Function.iterate_fixed
  simp [turn]

/-- A pass ends after one turn for each opening brace and a last one. -/
theorem Pass.iterate_turn {parameters : List String} (fits : parameters.length ≤ 2 ^ 64)
    (turns : Nat) (pass : Pass) (enough : pass.pending.count '\x7b' < turns) :
    (turn parameters)^[turns] pass =
      ⟨pass.written ++ substitute parameters pass.pending, []⟩ := by
  induction turns generalizing pass with
  | zero => omega
  | succ turns ih =>
      have progress := pass.pending_turn fits
      rw [Function.iterate_succ_apply, ← pass.written_turn fits]
      generalize pass.turn parameters = next at progress ⊢
      rcases progress with ended | fewer
      -- nothing is pending any more, and further turns change nothing
      · obtain ⟨written, pending⟩ := next
        obtain rfl : pending = [] := ended
        rw [iterate_turn_ended, substitute, List.append_nil]
      · exact ih next (by omega)

theorem format_append_of_closed (parameters : List String) {first : String}
    (closed : Closed first.toList) (second : String) :
    format (first ++ second) parameters = format first parameters ++ format second parameters := by
  rw [format, String.toList_append, substitute_append_of_closed parameters closed,
    String.ofList_append]
  rfl

theorem format_placeholder {parameters : List String} {content value : String} {number : Nat}
    (numbers : Numbers content.toList number) (isParameter : parameters[number]? = some value) :
    format ("\x7b" ++ content ++ "\x7d") parameters = value := by
  have found := placeholder?_of_numbers numbers isParameter []
  have spelled : ("\x7b" ++ content ++ "\x7d").toList =
      '\x7b' :: (content.toList ++ ['\x7d']) := by
    simp
  rw [format, spelled, substitute_placeholder found, substitute, List.append_nil,
    String.ofList_toList]

theorem format_of_inert {parameters : List String} {template : String}
    (inert : Inert parameters template.toList) : format template parameters = template := by
  rw [format, substitute_of_inert inert, String.ofList_toList]

end Message

/-- Filling a template is a single pass from left to right.  A template may be cut
behind a part in which all opening braces are closed.  A placeholder is replaced by
its parameter, whatever that contains.  A template in which no brace opens a
placeholder for a parameter stays as it is, so a message without parameters is
reported verbatim.  The pass looks for the next opening brace, then for the next
closing one, and reads a machine word between them; it ends after at most one turn
for each opening brace and a last one, and it has then written the filled template. -/
theorem format_is_single_pass (parameters : List String) :
    (∀ first second : String, Message.Closed first.toList →
      Message.format (first ++ second) parameters =
        Message.format first parameters ++ Message.format second parameters) ∧
    (∀ (content value : String) (number : Nat), Message.Numbers content.toList number →
      parameters[number]? = some value →
        Message.format ("\x7b" ++ content ++ "\x7d") parameters = value) ∧
    (∀ template : String, Message.Inert parameters template.toList →
      Message.format template parameters = template) ∧
    (∀ template : String, Message.format template [] = template) ∧
    (∀ (tree : Tree) (rule : String) (anchor : Nat) (message : String),
      (Violation.ofFinding tree rule ⟨anchor, message, []⟩).message = message) ∧
    (parameters.length < 2 ^ 64 → ∀ (template : String) (turns : Nat),
      template.toList.count '\x7b' < turns →
        (Message.Pass.turn parameters)^[turns] ⟨[], template.toList⟩ =
          ⟨(Message.format template parameters).toList, []⟩) := by
  have verbatim : ∀ template : String, Message.format template [] = template :=
    fun template => Message.format_of_inert (Message.inert_nil template.toList)
  refine ⟨?_, ?_, ?_, verbatim, ?_, ?_⟩
  · intro first second closed
    exact Message.format_append_of_closed parameters closed second
  · intro content value number numbers isParameter
    exact Message.format_placeholder numbers isParameter
  · intro template inert
    exact Message.format_of_inert inert
  · intro tree rule anchor message
    exact verbatim message
  · intro fits template turns enough
    rw [Message.Pass.iterate_turn (Nat.le_of_lt fits) turns _ enough, List.nil_append,
      Message.format, String.toList_ofList]

/-- Parameters of which the first looks like a placeholder for the second. -/
def deceptiveParameters : List String :=
  ["\x7b1\x7d", "x"]

theorem deceptiveParameters_filled :
    Message.Closed "\x7ba\x7b0\x7d".toList ∧
      Message.format ("\x7ba\x7b0\x7d" ++ "\x7b") deceptiveParameters =
        Message.format "\x7ba\x7b0\x7d" deceptiveParameters ++
          Message.format "\x7b" deceptiveParameters ∧
      Message.Numbers "+00".toList 0 ∧
      Message.format ("\x7b" ++ "+00" ++ "\x7d") deceptiveParameters = "\x7b1\x7d" ∧
      Message.Inert deceptiveParameters "\x7b2\x7d\x7b18446744073709551616\x7d\x7b1".toList ∧
      Message.format "\x7b2\x7d\x7b18446744073709551616\x7d\x7b1" deceptiveParameters =
        "\x7b2\x7d\x7b18446744073709551616\x7d\x7b1" ∧
      (Message.Pass.turn deceptiveParameters)^[3] ⟨[], "\x7ba\x7b0\x7d".toList⟩ =
        ⟨(Message.format "\x7ba\x7b0\x7d" deceptiveParameters).toList, []⟩ := by
  obtain ⟨cut, filled, kept, -, -, passed⟩ := format_is_single_pass deceptiveParameters
  have closed : Message.Closed "\x7ba\x7b0\x7d".toList := by decide +kernel
  have numbers : Message.Numbers "+00".toList 0 := by
    refine ⟨['0', '0'], by decide, ?_, .inr rfl, rfl⟩
    intro digit member
    obtain rfl : digit = '0' := by simpa using member
    rfl
  have inert : Message.Inert deceptiveParameters
      "\x7b2\x7d\x7b18446744073709551616\x7d\x7b1".toList := by decide +kernel
  exact ⟨closed, cut _ _ closed, numbers, filled _ _ 0 numbers rfl, inert, kept _ inert,
    passed (by decide) _ 3 (by decide)⟩

end TreeLint
