import TreeLint.Text.Digits

/-!
# Message templates

A template contains placeholders: the number of a parameter between braces.
Substitution is a single pass from left to right that never looks again at
text it inserted.  A brace that opens no placeholder is ordinary text.
-/

namespace TreeLint

namespace Message

open Text

/-- After an opening brace: the parameter of the placeholder that starts there
and the text behind it, if one starts there.  The number of the parameter is
written in ASCII digits after at most one plus sign. -/
def placeholder? (parameters : List String) (text : List Char) :
    Option (String × List Char) :=
  let digits := (skipPlus text).takeWhile Char.isDigit
  match (skipPlus text).dropWhile Char.isDigit with
  | '\x7d' :: rest =>
    if digits.isEmpty then none
    else parameters[numeral digits]?.map fun value => (value, rest)
  | _ => none

theorem placeholder?_shorter {parameters : List String} {text rest : List Char}
    {value : String} (found : placeholder? parameters text = some (value, rest)) :
    rest.length < text.length := by
  have signed := skipPlus_length_le text
  have bound := (List.dropWhile_sublist (l := skipPlus text) Char.isDigit).length_le
  unfold placeholder? at found
  split at found
  · rename_i tail behind
    rw [behind] at bound
    simp only [List.length_cons] at bound
    dsimp only at found
    split at found
    · simp at found
    · simp only [Option.map_eq_some_iff, Prod.mk.injEq] at found
      obtain ⟨_, _, _, rfl⟩ := found
      omega
  · simp at found

/-- The text of a template with its placeholders replaced. -/
def substitute (parameters : List String) (text : List Char) : List Char :=
  match text with
  | [] => []
  | c :: rest =>
    if c == '\x7b' then
      match _found : placeholder? parameters rest with
      | some (value, behind) => value.toList ++ substitute parameters behind
      | none => '\x7b' :: substitute parameters rest
    else c :: substitute parameters rest
termination_by text.length
decreasing_by
  · have shorter := placeholder?_shorter _found
    simp only [List.length_cons]
    omega
  · simp
  · simp

/-- Replaces each placeholder by its parameter; one without a parameter stays
as it is. -/
def format (template : String) (parameters : List String) : String :=
  String.ofList (substitute parameters template.toList)

end Message

end TreeLint
