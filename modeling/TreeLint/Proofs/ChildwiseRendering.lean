import Mathlib.Data.List.Basic
import TreeLint.Proofs.Traversals
import TreeLint.Tree.Render

/-!
# Rendering child by child

A subtree is rendered in one pass over its tokens.  The meaning of a rendering
is a recursion over the tree: a token is its text, and a compound node is the
renderings of its children that bear tokens, with a space where the last token
of one child and the first token of the next are apart.  Two neighbouring
tokens meet at exactly one boundary between children, so both descriptions
make the same decisions.  The decision itself is stated over unbounded columns.
-/

namespace TreeLint

/-! ## The spacing rule -/

/-- The next token starts on a later line, or behind the column where the
previous one ends. -/
def Token.GapBefore (previous next : Token) : Prop :=
  previous.position.line.toNat < next.position.line.toNat ∨
    previous.position.column.toNat + previous.text.length < next.position.column.toNat

instance (previous next : Token) : Decidable (previous.GapBefore next) :=
  inferInstanceAs (Decidable (_ ∨ _))

theorem Token.toNat_endColumn (token : Token) :
    token.endColumn.toNat =
      min (token.position.column.toNat + token.text.length) (UInt32.size - 1) := by
  rw [endColumn, UInt32.toNat_ofNat_of_lt']
  have positive : 0 < UInt32.size := by decide
  omega

/-- No column lies beyond the largest one, so a column that stays there decides
like the exact one. -/
theorem Token.needsSpaceBefore_iff (previous next : Token) :
    previous.needsSpaceBefore next = true ↔ previous.GapBefore next := by
  have bound : next.position.column.toNat < UInt32.size := next.position.column.toNat_lt_size
  simp only [needsSpaceBefore, Bool.or_eq_true, decide_eq_true_eq, UInt32.lt_iff_toNat_lt,
    toNat_endColumn, GapBefore]
  omega

def separator (previous next : Token) : String :=
  if previous.GapBefore next then " " else ""

/-! ## The recursion -/

/-- A rendered child with the tokens at its two ends. -/
structure Piece where
  first : Token
  last : Token
  text : String

/-- Writes the pieces one after the other, each pair of neighbours kept apart
where the tokens that meet there are. -/
def joinPieces : List Piece → String
  | [] => ""
  | [piece] => piece.text
  | piece :: next :: rest =>
      piece.text ++ separator piece.last next.first ++ joinPieces (next :: rest)

namespace Tree

/-- The piece of a child, if it bears tokens. -/
def piece? (tree : Tree) (child : Nat) (text : String) : Option Piece :=
  match tree.firstToken? child, tree.lastToken? child with
  | some first, some last => some ⟨first, last, text⟩
  | _, _ => none

/-- Renders a token as its text, and a compound node child by child. -/
def renderChildwise (tree : Tree) (id : Nat) : String :=
  match tree.token? id with
  | some token => token.text
  | none =>
      joinPieces ((tree.children id).attach.filterMap fun child =>
        tree.piece? child.val (tree.renderChildwise child.val))
termination_by id
decreasing_by exact lt_of_mem_children child.property

end Tree

/-! ## Runs of tokens -/

/-- What stands where two runs of tokens meet: nothing if one of them is empty. -/
def boundary : Option Token → Option Token → String
  | some previous, some next => separator previous next
  | _, _ => ""

def spaced : List Token → String
  | [] => ""
  | token :: rest => token.text ++ boundary (some token) rest.head? ++ spaced rest

theorem renderTokens_eq (tokens : List Token) (previous : Option Token) (out : String) :
    renderTokens out previous tokens =
      out ++ boundary previous tokens.head? ++ spaced tokens := by
  induction tokens generalizing previous out with
  | nil => cases previous <;> simp [renderTokens, boundary, spaced]
  | cons token rest ih =>
      cases previous with
      | none =>
          simp only [renderTokens, ih]
          simp [boundary, spaced, String.append_assoc]
      | some previous =>
          have decided := previous.needsSpaceBefore_iff token
          simp only [renderTokens, ih]
          simp [boundary, spaced, separator, decided, String.append_assoc]

theorem spaced_append (first second : List Token) :
    spaced (first ++ second) =
      spaced first ++ boundary first.getLast? second.head? ++ spaced second := by
  induction first with
  | nil => simp [spaced, boundary]
  | cons token rest ih =>
      rw [List.cons_append, spaced, ih, spaced]
      cases rest with
      | nil => simp [boundary, spaced]
      | cons next rest => simp [String.append_assoc]

theorem joinPieces_cons (piece : Piece) (rest : List Piece) :
    joinPieces (piece :: rest) =
      piece.text ++ boundary (some piece.last) (rest.head?.map Piece.first) ++
        joinPieces rest := by
  cases rest with
  | nil => simp [joinPieces, boundary]
  | cons next rest => rfl

namespace Tree

theorem render_eq_spaced (tree : Tree) (id : Nat) :
    tree.render id = spaced (tree.tokens id) := by
  rw [render, renderTokens_eq]
  simp [boundary]

theorem piece?_eq_none_iff (tree : Tree) (child : Nat) (text : String) :
    tree.piece? child text = none ↔ tree.tokens child = [] := by
  rw [piece?, firstToken?_eq, lastToken?_eq]
  cases tokens : tree.tokens child with
  | nil => simp
  | cons token rest => simp [List.getLast?_cons]

theorem piece?_of_tokens {tree : Tree} {child : Nat} {text : String} {piece : Piece}
    (isPiece : tree.piece? child text = some piece) :
    (tree.tokens child).head? = some piece.first ∧
      (tree.tokens child).getLast? = some piece.last ∧ piece.text = text := by
  rw [piece?, firstToken?_eq, lastToken?_eq] at isPiece
  split at isPiece
  · rename_i first last isFirst isLast
    cases isPiece
    exact ⟨isFirst, isLast, rfl⟩
  · simp at isPiece

def runPieces (tree : Tree) (children : List Nat) : List Piece :=
  children.filterMap fun child => tree.piece? child (spaced (tree.tokens child))

theorem runPieces_cons (tree : Tree) (child : Nat) (rest : List Nat) :
    tree.runPieces (child :: rest) =
      (tree.piece? child (spaced (tree.tokens child))).toList ++ tree.runPieces rest := by
  rw [runPieces, List.filterMap_cons]
  cases tree.piece? child (spaced (tree.tokens child)) <;> rfl

/-- The pieces start with the first token of the whole run and join to its text. -/
theorem joinPieces_runPieces (tree : Tree) (children : List Nat) :
    (tree.runPieces children).head?.map Piece.first =
        (children.flatMap tree.tokens).head? ∧
      joinPieces (tree.runPieces children) = spaced (children.flatMap tree.tokens) := by
  -- The boundary behind a child is decided by the first token of all that
  -- follows, which may stand beyond several children without tokens.
  induction children with
  | nil => exact ⟨rfl, rfl⟩
  | cons child rest ih =>
      obtain ⟨sameFirst, sameText⟩ := ih
      rw [runPieces_cons, List.flatMap_cons]
      cases isPiece : tree.piece? child (spaced (tree.tokens child)) with
      | none =>
          have noTokens := (tree.piece?_eq_none_iff child _).mp isPiece
          rw [noTokens]
          exact ⟨sameFirst, sameText⟩
      | some piece =>
          obtain ⟨isFirst, isLast, text⟩ := piece?_of_tokens isPiece
          refine ⟨?_, ?_⟩
          · simp [List.head?_append, isFirst]
          · rw [Option.toList_some, List.singleton_append, joinPieces_cons, sameFirst, sameText,
              spaced_append, isLast, text]

theorem renderChildwise_of_compound {tree : Tree} {id : Nat} (noToken : tree.token? id = none) :
    tree.renderChildwise id =
      joinPieces ((tree.children id).filterMap fun child =>
        tree.piece? child (tree.renderChildwise child)) := by
  rw [renderChildwise, noToken]
  have attached := List.filterMap_map (l := (tree.children id).attach) (f := Subtype.val)
    (g := fun child => tree.piece? child (tree.renderChildwise child))
  rw [List.attach_map_subtype_val] at attached
  exact congrArg joinPieces attached.symm

theorem renderChildwise_eq_spaced (tree : Tree) (id : Nat) :
    tree.renderChildwise id = spaced (tree.tokens id) := by
  induction id using Nat.strongRecOn with
  | ind id ih =>
      cases isToken : tree.token? id with
      | some token =>
          rw [renderChildwise, isToken, tokens_of_token isToken]
          simp [spaced, boundary]
      | none =>
          have children : ∀ child ∈ tree.children id,
              tree.piece? child (tree.renderChildwise child) =
                tree.piece? child (spaced (tree.tokens child)) := by
            intro child isChild
            rw [ih child (lt_of_mem_children isChild)]
          rw [renderChildwise_of_compound isToken, List.filterMap_congr children,
            tokens_of_compound isToken]
          exact (tree.joinPieces_runPieces (tree.children id)).2

end Tree

/-- The one pass over the tokens of a subtree gives the rendering child by
child.  The decision for a space is the exact one, also where the end of a token
lies beyond the largest column, and exactly the children without any token are
passed over. -/
theorem render_eq_renderChildwise (tree : Tree) :
    (∀ id, tree.render id = tree.renderChildwise id) ∧
    (∀ previous next : Token,
      previous.needsSpaceBefore next = true ↔ previous.GapBefore next) ∧
    ∀ child text, tree.piece? child text = none ↔ tree.tokens child = [] := by
  refine ⟨?_, Token.needsSpaceBefore_iff, tree.piece?_eq_none_iff⟩
  intro id
  rw [tree.render_eq_spaced, tree.renderChildwise_eq_spaced]

end TreeLint
