import TreeLint.Tree.Traversal

/-!
# Rendering subtrees on one line

The tokens of a subtree are written one after the other, with a single space
where the source had a gap: the next token starts on a later line, or behind
the column where the previous one ended.  Longer gaps and line breaks collapse
to one space.  The result is for messages only.
-/

namespace TreeLint

/-- Whether two neighbouring tokens are kept apart by a space. -/
def Token.needsSpaceBefore (previous next : Token) : Bool :=
  previous.position.line < next.position.line ||
    previous.endColumn < next.position.column

/-- Writes tokens behind the text written so far, whose last token was
`previous`. -/
def renderTokens (out : String) (previous : Option Token) : List Token → String
  | [] => out
  | token :: rest =>
    let gap :=
      match previous with
      | some previous => if previous.needsSpaceBefore token then " " else ""
      | none => ""
    renderTokens (out ++ gap ++ token.text) (some token) rest

namespace Tree

def render (tree : Tree) (id : Nat) : String :=
  renderTokens "" none (tree.tokens id)

/-- The texts of the tokens below a node without any separator. -/
def concatTokens (tree : Tree) (id : Nat) : String :=
  String.join ((tree.tokens id).map Token.text)

end Tree

end TreeLint
