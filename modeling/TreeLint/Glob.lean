/-!
# Glob patterns

In a pattern `?` stands for one character and `*` for any number of characters,
slashes included.  `**` has to be a whole path component and stands for any
number of directories.  A class in brackets stands for one of its characters,
or for any other character if it starts with `!`.  All other characters stand
for themselves.
-/

namespace TreeLint

namespace Glob

/-- A part of a character class: the characters from the first to the last. -/
structure Range where
  first : Char
  last : Char
deriving DecidableEq, Repr

def Range.contains (range : Range) (c : Char) : Bool :=
  range.first ≤ c && c ≤ range.last

inductive Piece where
  | char (c : Char)
  | anyChar
  | within (ranges : List Range)
  | except (ranges : List Range)
  | anySequence
  /-- Any number of whole directories. -/
  | anyDirectories
deriving DecidableEq, Repr

inductive PatternFault where
  | wildcards
  | recursiveWildcards
  | range
deriving DecidableEq, Repr

def PatternFault.message : PatternFault → String
  | .wildcards => "wildcards are either regular `*` or recursive `**`"
  | .recursiveWildcards => "recursive wildcards must form a single path component"
  | .range => "invalid range pattern"

/-- The fault of a pattern with the position of the character it is noticed
at. -/
structure PatternError where
  position : Nat
  fault : PatternFault
deriving DecidableEq, Repr

def PatternError.message (error : PatternError) : String :=
  "Pattern syntax error near position " ++ toString error.position ++ ": " ++
    error.fault.message

/-- The ranges of a character class; a range is written with a dash between its
ends. -/
def ranges : List Char → List Range
  | first :: '-' :: last :: rest => ⟨first, last⟩ :: ranges rest
  | c :: rest => ⟨c, c⟩ :: ranges rest
  | [] => []

/-- The characters of a class up to its closing bracket, which cannot be the
first of them, and what stands behind the bracket. -/
def classBody? : List Char → Option (List Char × List Char)
  | [] => none
  | first :: rest =>
    match rest.dropWhile (· != ']') with
    | [] => none
    | _ :: behind => some (first :: rest.takeWhile (· != ']'), behind)

def class? : List Char → Option (Piece × List Char)
  | '!' :: rest => (classBody? rest).map fun (body, behind) => (.except (ranges body), behind)
  | rest => (classBody? rest).map fun (body, behind) => (.within (ranges body), behind)

theorem classBody?_shorter {text body behind : List Char}
    (found : classBody? text = some (body, behind)) : behind.length < text.length := by
  unfold classBody? at found
  split at found
  · simp at found
  · rename_i first rest
    have bound := (List.dropWhile_sublist (l := rest) (· != ']')).length_le
    split at found
    · simp at found
    · rename_i tail cut
      rw [cut] at bound
      simp only [List.length_cons] at bound ⊢
      simp only [Option.some.injEq, Prod.mk.injEq] at found
      obtain ⟨_, rfl⟩ := found
      omega

theorem class?_shorter {text behind : List Char} {piece : Piece}
    (found : class? text = some (piece, behind)) : behind.length < text.length := by
  unfold class? at found
  split at found
  · simp only [Option.map_eq_some_iff, Prod.mk.injEq] at found
    obtain ⟨⟨body, rest⟩, inner, _, rfl⟩ := found
    have bound := classBody?_shorter inner
    simp only [List.length_cons]
    omega
  · simp only [Option.map_eq_some_iff, Prod.mk.injEq] at found
    obtain ⟨⟨body, rest⟩, inner, _, rfl⟩ := found
    exact classBody?_shorter inner

/-- Adds a wildcard for directories; two in a row say no more than one. -/
def addDirectories : List Piece → List Piece
  | .anyDirectories :: pieces => .anyDirectories :: pieces
  | pieces => .anyDirectories :: pieces

/-- Reads a pattern from the character at `position` on.  `previous` is the
character before it, and `pieces` holds what was read, last first. -/
def parseFrom (position : Nat) (previous : Option Char) (pieces : List Piece)
    (text : List Char) : Except PatternError (List Piece) :=
  match text with
  | [] => .ok pieces.reverse
  | '?' :: rest => parseFrom (position + 1) (some '?') (.anyChar :: pieces) rest
  | '*' :: '*' :: '*' :: _ => .error ⟨position + 2, .wildcards⟩
  | '*' :: '*' :: rest =>
    if previous = none ∨ previous = some '/' then
      match rest with
      | [] => .ok (addDirectories pieces).reverse
      | '/' :: rest => parseFrom (position + 3) (some '/') (addDirectories pieces) rest
      | _ => .error ⟨position + 2, .recursiveWildcards⟩
    else .error ⟨position - 1, .recursiveWildcards⟩
  | '*' :: rest => parseFrom (position + 1) (some '*') (.anySequence :: pieces) rest
  | '[' :: rest =>
    match _found : class? rest with
    | some (piece, behind) =>
      parseFrom (position + 1 + (rest.length - behind.length)) (some ']') (piece :: pieces)
        behind
    | none => .error ⟨position, .range⟩
  | c :: rest => parseFrom (position + 1) (some c) (.char c :: pieces) rest
termination_by text.length
decreasing_by
  · simp
  · simp +arith
  · simp
  · have bound := class?_shorter _found
    simp only [List.length_cons]
    omega
  · simp

def parse (pattern : String) : Except PatternError (List Piece) :=
  parseFrom 0 none [] pattern.toList

/-- The result of comparing a pattern with text.  If the text was too short,
taking more of it for an earlier wildcard cannot help. -/
inductive Verdict where
  | matched
  | mismatch
  | exhausted
deriving DecidableEq, Repr

/-- Whether a piece that stands for one character stands for this one. -/
def Piece.accepts (piece : Piece) (c : Char) : Bool :=
  match piece with
  | .char expected => c == expected
  | .anyChar => true
  | .within ranges => ranges.any fun range => range.contains c
  | .except ranges => !ranges.any fun range => range.contains c
  | .anySequence => false
  | .anyDirectories => false

/-- Lets a wildcard take more and more of the text until what follows it agrees
with the rest or runs out of text.  A wildcard for directories stops behind
slashes only, or at the end. -/
def extend (directories : Bool) (following : List Char → Verdict) : List Char → Verdict
  | [] => following []
  | c :: rest =>
    if directories && c != '/' then extend directories following rest
    else
      match following rest with
      | .mismatch => extend directories following rest
      | verdict => verdict

/-- Compares a wildcard, which may also take nothing, with the text. -/
def expand (directories : Bool) (following : List Char → Verdict) (text : List Char) :
    Verdict :=
  match following text with
  | .mismatch => extend directories following text
  | verdict => verdict

def compare : List Piece → List Char → Verdict
  | [], [] => .matched
  | [], _ :: _ => .mismatch
  | .anySequence :: pieces, text => expand false (compare pieces) text
  | .anyDirectories :: pieces, text => expand true (compare pieces) text
  | _ :: _, [] => .exhausted
  | piece :: pieces, c :: text => if piece.accepts c then compare pieces text else .mismatch

def isMatch (pieces : List Piece) (path : String) : Bool :=
  compare pieces path.toList == .matched

end Glob

end TreeLint
