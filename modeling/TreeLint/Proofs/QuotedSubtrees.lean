import TreeLint.Proofs.ChildwiseRendering
import TreeLint.Proofs.TokenOrder

/-!
# Quoted subtrees

A message quotes a subtree by its rendering.  The quotation reads like the place it
is taken from: the tokens below a node stand next to each other among the tokens
below every node above it, and whether a space stands between two tokens depends on
these two alone.  To tell an inserted space from the text of a token, a rendering is
laid out as a list of fragments first; without the spaces among them it is the bare
text of the tokens.
-/

namespace TreeLint

/-! ## Fragments -/

/-- What a rendering is written from. -/
inductive Fragment where
  | word (token : Token)
  | space
  deriving DecidableEq

namespace Fragment

def text : Fragment → String
  | word token => token.text
  | space => " "

def token? : Fragment → Option Token
  | word token => some token
  | space => none

def isWord (fragment : Fragment) : Bool :=
  fragment.token?.isSome

/-- What stands where two runs of tokens meet. -/
def between : Option Token → Option Token → List Fragment
  | some previous, some next => if previous.GapBefore next then [space] else []
  | _, _ => []

def layOut : List Token → List Fragment
  | [] => []
  | token :: rest => word token :: (between (some token) rest.head? ++ layOut rest)

/-- Writes the fragments one after the other. -/
def display (fragments : List Fragment) : String :=
  String.join (fragments.map text)

/-- Spaces are only found between two words, and never two in a row. -/
structure SinglySpaced (fragments : List Fragment) : Prop where
  head : fragments.head? ≠ some space
  last : fragments.getLast? ≠ some space
  apart : fragments.IsChain fun fragment next => fragment = space → next ≠ space

theorem display_cons (fragment : Fragment) (rest : List Fragment) :
    display (fragment :: rest) = fragment.text ++ display rest :=
  String.join_cons

theorem display_append (first second : List Fragment) :
    display (first ++ second) = display first ++ display second := by
  rw [display, List.map_append, String.join_append]
  rfl

theorem display_between (previous next : Option Token) :
    display (between previous next) = boundary previous next := by
  cases previous with
  | none => rfl
  | some previous =>
      cases next with
      | none => rfl
      | some next =>
          rw [between, boundary, separator]
          split <;> rfl

theorem filterMap_token?_between (previous next : Option Token) :
    (between previous next).filterMap token? = [] := by
  unfold between
  split
  · split <;> rfl
  · rfl

theorem layOut_append (first second : List Token) :
    layOut (first ++ second) =
      layOut first ++ between first.getLast? second.head? ++ layOut second := by
  induction first with
  | nil => rfl
  | cons token rest ih =>
      rw [List.cons_append, layOut, ih, layOut]
      cases rest with
      | nil => simp [between, layOut]
      | cons next rest => simp

theorem display_layOut (tokens : List Token) : display (layOut tokens) = spaced tokens := by
  induction tokens with
  | nil => rfl
  | cons token rest ih =>
      rw [layOut, display_cons, display_append, display_between, ih, spaced,
        String.append_assoc]
      rfl

theorem filterMap_token?_layOut (tokens : List Token) :
    (layOut tokens).filterMap token? = tokens := by
  induction tokens with
  | nil => rfl
  | cons token rest ih =>
      have isWord : token? (word token) = some token := rfl
      rw [layOut, List.filterMap_cons_some isWord, List.filterMap_append,
        filterMap_token?_between, ih]
      rfl

/-- Without the spaces the bare texts of the words are left. -/
theorem display_filter_isWord (fragments : List Fragment) :
    display (fragments.filter isWord) =
      String.join ((fragments.filterMap token?).map Token.text) := by
  induction fragments with
  | nil => rfl
  | cons fragment rest ih =>
      cases fragment with
      | word token =>
          have kept : isWord (word token) = true := rfl
          rw [List.filter_cons_of_pos kept, display_cons, ih]
          exact String.join_cons.symm
      | space => exact ih

theorem SinglySpaced.word_cons {rest : List Fragment} (spaced : SinglySpaced rest)
    (token : Token) : SinglySpaced (word token :: rest) where
  head := by simp
  last := by
    cases rest with
    | nil => simp
    | cons next rest => simpa [List.getLast?_cons_cons] using spaced.last
  apart := spaced.apart.cons (by simp)

theorem SinglySpaced.space_cons {next : Token} {rest : List Fragment}
    (spaced : SinglySpaced (word next :: rest)) (token : Token) :
    SinglySpaced (word token :: space :: word next :: rest) where
  head := by simp
  last := by simpa [List.getLast?_cons_cons] using spaced.last
  apart := (spaced.apart.cons (by simp)).cons (by simp)

theorem singlySpaced_layOut (tokens : List Token) : SinglySpaced (layOut tokens) := by
  induction tokens with
  | nil => exact ⟨by simp [layOut], by simp [layOut], List.IsChain.nil⟩
  | cons token rest ih =>
      cases rest with
      | nil => exact ih.word_cons token
      | cons next rest =>
          rw [layOut, List.head?_cons, between]
          split
          · exact ih.space_cons token
          · exact ih.word_cons token

/-- A run that has a token is laid out inside a longer run as it is on its own. -/
theorem layOut_append_append (before after : List Token) {run : List Token} {first : Token}
    (isFirst : run.head? = some first) :
    layOut (before ++ run ++ after) =
      layOut before ++ between before.getLast? (some first) ++ layOut run ++
        (between run.getLast? after.head? ++ layOut after) := by
  have notEmpty : run ≠ [] := by
    rintro rfl
    cases isFirst
  have sameLast : (before ++ run).getLast? = run.getLast? := by
    rw [List.getLast?_append_of_ne_nil _ notEmpty]
  rw [layOut_append, layOut_append, sameLast, isFirst, List.append_assoc _ _ (layOut after)]

end Fragment

/-! ## Tokens below tokens -/

namespace Tree

/-- The tokens below an inner node are next to each other among those of the outer one. -/
theorem exists_tokens_around {tree : Tree} {id below : Nat}
    (isBelow : below ∈ tree.descendants id) :
    ∃ before after, tree.tokens id = before ++ tree.tokens below ++ after := by
  induction id using Nat.strongRecOn with
  | ind id ih =>
      rw [descendants_eq, List.mem_cons, List.mem_flatMap] at isBelow
      rcases isBelow with rfl | ⟨child, isChild, belowChild⟩
      · exact ⟨[], [], by simp⟩
      · obtain ⟨before, after, around⟩ := ih child (lt_of_mem_children isChild) belowChild
        obtain ⟨earlier, later, siblings⟩ := List.append_of_mem isChild
        have isCompound : tree.token? id = none := by
          cases isToken : tree.token? id with
          | none => rfl
          | some token => simp [children_of_token isToken] at isChild
        refine ⟨earlier.flatMap tree.tokens ++ before, after ++ later.flatMap tree.tokens, ?_⟩
        rw [tokens_of_compound isCompound, siblings, List.flatMap_append, List.flatMap_cons,
          around]
        simp only [List.append_assoc]

/-- The tokens of a node before its token `first`. -/
def tokensBefore (tree : Tree) (id : Nat) (first : Token) : List Token :=
  (tree.tokens id).takeWhile fun token => token ≠ first

theorem tokensBefore_eq {calls : List BuildCall} {tree : Tree}
    (frozen : (Builder.after calls).finish = .ok tree) {id : Nat} {first : Token}
    {before after : List Token} (split : tree.tokens id = before ++ first :: after) :
    tree.tokensBefore id first = before := by
  -- indices increase, so no token before the first one is equal to it
  have increasing := pairwise_tokens frozen id
  rw [split, List.pairwise_append] at increasing
  have different : ∀ token ∈ before, decide (token ≠ first) = true := by
    intro token isBefore
    have smaller := increasing.2.2 token isBefore first List.mem_cons_self
    rw [decide_eq_true_eq]
    rintro rfl
    exact Nat.lt_irrefl _ smaller
  rw [tokensBefore, split, List.takeWhile_append_of_pos different]
  simp

def fragments (tree : Tree) (id : Nat) : List Fragment :=
  Fragment.layOut (tree.tokens id)

theorem render_eq_display (tree : Tree) (id : Nat) :
    tree.render id = Fragment.display (tree.fragments id) := by
  rw [render_eq_spaced, fragments, Fragment.display_layOut]

theorem concatTokens_eq_display (tree : Tree) (id : Nat) :
    tree.concatTokens id = Fragment.display ((tree.fragments id).filter Fragment.isWord) := by
  rw [Fragment.display_filter_isWord, fragments, Fragment.filterMap_token?_layOut]
  rfl

/-- The fragments of `below` stand among those of `id`, and in both texts what is
written from them.  If `below` has a token, the fragments in front are exactly those
of the tokens before its first one, with the spaces between them and behind them. -/
structure QuotedBetween (tree : Tree) (id below : Nat) (front back : List Fragment) :
    Prop where
  fragments : tree.fragments id = front ++ tree.fragments below ++ back
  rendered : tree.render id =
    Fragment.display front ++ tree.render below ++ Fragment.display back
  concatenated : tree.concatTokens id =
    Fragment.display (front.filter Fragment.isWord) ++ tree.concatTokens below ++
      Fragment.display (back.filter Fragment.isWord)
  behind : ∀ first, tree.firstToken? below = some first →
    front.filterMap Fragment.token? = tree.tokensBefore id first

theorem QuotedBetween.of_fragments {tree : Tree} {id below : Nat}
    {front back : List Fragment}
    (fragments : tree.fragments id = front ++ tree.fragments below ++ back)
    (behind : ∀ first, tree.firstToken? below = some first →
      front.filterMap Fragment.token? = tree.tokensBefore id first) :
    tree.QuotedBetween id below front back where
  fragments := fragments
  rendered := by
    rw [render_eq_display, fragments, Fragment.display_append, Fragment.display_append,
      ← render_eq_display]
  concatenated := by
    rw [concatTokens_eq_display, fragments, List.filter_append, List.filter_append,
      Fragment.display_append, Fragment.display_append, ← concatTokens_eq_display]
  behind := behind

theorem exists_quotedBetween {calls : List BuildCall} {tree : Tree}
    (frozen : (Builder.after calls).finish = .ok tree) {id below : Nat}
    (isBelow : below ∈ tree.descendants id) :
    ∃ front back, tree.QuotedBetween id below front back := by
  have isFirst := tree.firstToken?_eq below
  cases run : tree.tokens below with
  | nil =>
      -- nothing is written for the node, so any place would do
      refine ⟨tree.fragments id, [], QuotedBetween.of_fragments ?_ ?_⟩
      · rw [fragments, fragments, run, Fragment.layOut, List.append_nil, List.append_nil]
      · intro first found
        rw [isFirst, run] at found
        cases found
  | cons first rest =>
      have isHead : (tree.tokens below).head? = some first := by rw [run, List.head?_cons]
      rw [isHead] at isFirst
      obtain ⟨before, after, around⟩ := exists_tokens_around isBelow
      refine ⟨Fragment.layOut before ++ Fragment.between before.getLast? (some first),
        Fragment.between (tree.tokens below).getLast? after.head? ++ Fragment.layOut after,
        QuotedBetween.of_fragments ?_ ?_⟩
      · rw [fragments, around, Fragment.layOut_append_append before after isHead]
        rfl
      · intro token found
        rw [isFirst, Option.some_inj] at found
        subst found
        have split : tree.tokens id = before ++ first :: (rest ++ after) := by
          rw [around, run, List.append_assoc, List.cons_append]
        rw [List.filterMap_append, Fragment.filterMap_token?_layOut,
          Fragment.filterMap_token?_between, List.append_nil, tokensBefore_eq frozen split]

end Tree

/-- A subtree reads the same inside every subtree around it, in the rendering and in
the bare text of the tokens, and it is found behind what is written for the tokens
before its first one.  Every rendering is its tokens in order with at most one space
between two neighbours, and the bare text is what is left without these spaces. -/
theorem quoted_subtree_reads_the_same {calls : List BuildCall} {tree : Tree}
    (frozen : (Builder.after calls).finish = .ok tree) (id : Nat) :
    (∀ below ∈ tree.descendants id, ∃ front back, tree.QuotedBetween id below front back) ∧
    (tree.fragments id).filterMap Fragment.token? = tree.tokens id ∧
    Fragment.SinglySpaced (tree.fragments id) ∧
    tree.render id = Fragment.display (tree.fragments id) ∧
    tree.concatTokens id = Fragment.display ((tree.fragments id).filter Fragment.isWord) := by
  refine ⟨?_, ?_, ?_, tree.render_eq_display id, tree.concatTokens_eq_display id⟩
  · intro below isBelow
    exact Tree.exists_quotedBetween frozen isBelow
  · exact Fragment.filterMap_token?_layOut (tree.tokens id)
  · exact Fragment.singlySpaced_layOut (tree.tokens id)

theorem deadEcho_quoted :
    ∃ tree front back, (Builder.after (deadEcho 2)).finish = .ok tree ∧
      5 ∈ tree.descendants 7 ∧ tree.QuotedBetween 7 5 front back ∧
      front.filterMap Fragment.token? =
        [⟨0, .breakKw, "break", ⟨2, 4⟩⟩, ⟨1, .semicolon, ";", ⟨2, 9⟩⟩] := by
  obtain ⟨tree, frozen, isBelow, isFirst, earlier⟩ :
      ∃ tree, (Builder.after (deadEcho 2)).finish = .ok tree ∧ 5 ∈ tree.descendants 7 ∧
        tree.firstToken? 5 = some ⟨4, .echoKw, "echo", ⟨3, 4⟩⟩ ∧
        tree.tokensBefore 7 ⟨4, .echoKw, "echo", ⟨3, 4⟩⟩ =
          [⟨0, .breakKw, "break", ⟨2, 4⟩⟩, ⟨1, .semicolon, ";", ⟨2, 9⟩⟩] :=
    ⟨_, rfl, by decide +kernel⟩
  obtain ⟨front, back, quoted⟩ := (quoted_subtree_reads_the_same frozen 7).1 5 isBelow
  exact ⟨tree, front, back, frozen, isBelow, quoted, by rw [quoted.behind _ isFirst, earlier]⟩

end TreeLint
