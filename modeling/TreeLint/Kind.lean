/-!
# The vocabulary of syntax kinds

Every token and every structural node carries one flat tag.  Checks subscribe
to exact tags, so there is no hierarchy of kinds; the numbering only groups
them: keywords from 10, identifiers and literals from 50, punctuation from 70
and structural nodes from 200.
-/

namespace TreeLint

/-- The tag of a token or of a structural node. -/
inductive Kind where
  /-- Stands for any name outside this vocabulary. -/
  | unknown
  | breakKw
  | returnKw
  | continueKw
  | throwKw
  | echoKw
  | ifKw
  | elseKw
  | whileKw
  | functionKw
  | newKw
  | trueKw
  | falseKw
  | nullKw
  | staticKw
  | publicKw
  | protectedKw
  | privateKw
  | ident
  | variable
  | intLiteral
  | floatLiteral
  | stringLiteral
  | inlineHtml
  | semicolon
  | comma
  | lParen
  | rParen
  | lBrace
  | rBrace
  | lBracket
  | rBracket
  | assign
  | plus
  | minus
  | star
  | slash
  | dot
  | eqEq
  | notEq
  | lt
  | gt
  | andAnd
  | orOr
  | bang
  | arrow
  | openTag
  | closeTag
  /-- Root of a file. -/
  | script
  /-- Braces with the statements between them as direct children. -/
  | block
  /-- Wrapper around every concrete statement inside a statement list. -/
  | statement
  | breakStatement
  | returnStatement
  | continueStatement
  | throwStatement
  | echoStatement
  | expressionStatement
  | ifStatement
  | elseClause
  | whileStatement
  | functionDeclaration
  | parameterList
  | parameter
  /-- One modifier keyword of a class member declaration. -/
  | memberModifier
  | parenthesizedExpression
  | binaryExpression
  | unaryExpression
  | assignmentExpression
  | callExpression
  | argumentList
  | memberAccess
  | newExpression
  | literal
deriving DecidableEq, Repr, Inhabited

namespace Kind

/-- Every kind, in declaration order. -/
def all : List Kind :=
  [.unknown, .breakKw, .returnKw, .continueKw, .throwKw, .echoKw, .ifKw, .elseKw, .whileKw,
   .functionKw, .newKw, .trueKw, .falseKw, .nullKw, .staticKw, .publicKw, .protectedKw,
   .privateKw, .ident, .variable, .intLiteral, .floatLiteral, .stringLiteral, .inlineHtml,
   .semicolon, .comma, .lParen, .rParen, .lBrace, .rBrace, .lBracket, .rBracket, .assign,
   .plus, .minus, .star, .slash, .dot, .eqEq, .notEq, .lt, .gt, .andAnd, .orOr, .bang,
   .arrow, .openTag, .closeTag, .script, .block, .statement, .breakStatement,
   .returnStatement, .continueStatement, .throwStatement, .echoStatement,
   .expressionStatement, .ifStatement, .elseClause, .whileStatement, .functionDeclaration,
   .parameterList, .parameter, .memberModifier, .parenthesizedExpression,
   .binaryExpression, .unaryExpression, .assignmentExpression, .callExpression,
   .argumentList, .memberAccess, .newExpression, .literal]

/-- The stable snake_case name used by serialized trees and configuration. -/
def name : Kind → String
  | .unknown => "unknown"
  | .breakKw => "break_kw"
  | .returnKw => "return_kw"
  | .continueKw => "continue_kw"
  | .throwKw => "throw_kw"
  | .echoKw => "echo_kw"
  | .ifKw => "if_kw"
  | .elseKw => "else_kw"
  | .whileKw => "while_kw"
  | .functionKw => "function_kw"
  | .newKw => "new_kw"
  | .trueKw => "true_kw"
  | .falseKw => "false_kw"
  | .nullKw => "null_kw"
  | .staticKw => "static_kw"
  | .publicKw => "public_kw"
  | .protectedKw => "protected_kw"
  | .privateKw => "private_kw"
  | .ident => "ident"
  | .variable => "variable"
  | .intLiteral => "int_literal"
  | .floatLiteral => "float_literal"
  | .stringLiteral => "string_literal"
  | .inlineHtml => "inline_html"
  | .semicolon => "semicolon"
  | .comma => "comma"
  | .lParen => "l_paren"
  | .rParen => "r_paren"
  | .lBrace => "l_brace"
  | .rBrace => "r_brace"
  | .lBracket => "l_bracket"
  | .rBracket => "r_bracket"
  | .assign => "assign"
  | .plus => "plus"
  | .minus => "minus"
  | .star => "star"
  | .slash => "slash"
  | .dot => "dot"
  | .eqEq => "eq_eq"
  | .notEq => "not_eq"
  | .lt => "lt"
  | .gt => "gt"
  | .andAnd => "and_and"
  | .orOr => "or_or"
  | .bang => "bang"
  | .arrow => "arrow"
  | .openTag => "open_tag"
  | .closeTag => "close_tag"
  | .script => "script"
  | .block => "block"
  | .statement => "statement"
  | .breakStatement => "break_statement"
  | .returnStatement => "return_statement"
  | .continueStatement => "continue_statement"
  | .throwStatement => "throw_statement"
  | .echoStatement => "echo_statement"
  | .expressionStatement => "expression_statement"
  | .ifStatement => "if_statement"
  | .elseClause => "else_clause"
  | .whileStatement => "while_statement"
  | .functionDeclaration => "function_declaration"
  | .parameterList => "parameter_list"
  | .parameter => "parameter"
  | .memberModifier => "member_modifier"
  | .parenthesizedExpression => "parenthesized_expression"
  | .binaryExpression => "binary_expression"
  | .unaryExpression => "unary_expression"
  | .assignmentExpression => "assignment_expression"
  | .callExpression => "call_expression"
  | .argumentList => "argument_list"
  | .memberAccess => "member_access"
  | .newExpression => "new_expression"
  | .literal => "literal"

/-- The stable number of a kind. -/
def code : Kind → Nat
  | .unknown => 0
  | .breakKw => 10
  | .returnKw => 11
  | .continueKw => 12
  | .throwKw => 13
  | .echoKw => 14
  | .ifKw => 15
  | .elseKw => 16
  | .whileKw => 17
  | .functionKw => 18
  | .newKw => 19
  | .trueKw => 20
  | .falseKw => 21
  | .nullKw => 22
  | .staticKw => 23
  | .publicKw => 24
  | .protectedKw => 25
  | .privateKw => 26
  | .ident => 50
  | .variable => 51
  | .intLiteral => 52
  | .floatLiteral => 53
  | .stringLiteral => 54
  | .inlineHtml => 55
  | .semicolon => 70
  | .comma => 71
  | .lParen => 72
  | .rParen => 73
  | .lBrace => 74
  | .rBrace => 75
  | .lBracket => 76
  | .rBracket => 77
  | .assign => 78
  | .plus => 79
  | .minus => 80
  | .star => 81
  | .slash => 82
  | .dot => 83
  | .eqEq => 84
  | .notEq => 85
  | .lt => 86
  | .gt => 87
  | .andAnd => 88
  | .orOr => 89
  | .bang => 90
  | .arrow => 91
  | .openTag => 92
  | .closeTag => 93
  | .script => 200
  | .block => 201
  | .statement => 202
  | .breakStatement => 210
  | .returnStatement => 211
  | .continueStatement => 212
  | .throwStatement => 213
  | .echoStatement => 214
  | .expressionStatement => 215
  | .ifStatement => 216
  | .elseClause => 217
  | .whileStatement => 218
  | .functionDeclaration => 219
  | .parameterList => 220
  | .parameter => 221
  | .memberModifier => 222
  | .parenthesizedExpression => 230
  | .binaryExpression => 231
  | .unaryExpression => 232
  | .assignmentExpression => 233
  | .callExpression => 234
  | .argumentList => 235
  | .memberAccess => 236
  | .newExpression => 237
  | .literal => 238

/-- The kind of exactly this name, if the vocabulary has it. -/
def ofName? (name : String) : Option Kind :=
  all.find? fun kind => kind.name == name

/-- The kind of this name, `unknown` for a name outside the vocabulary. -/
def ofName (name : String) : Kind :=
  (ofName? name).getD .unknown

/-- The name written as one word, each part capitalised: `break_kw` is labelled
`BreakKw`. -/
def label (kind : Kind) : String :=
  String.join ((kind.name.splitOn "_").map String.capitalize)

/-- Statement lists hold wrappers of this one kind. -/
def isStatement (kind : Kind) : Bool :=
  kind == .statement

/-- Expressions are the structural kinds numbered from 230. -/
def isExpression (kind : Kind) : Bool :=
  230 ≤ kind.code && kind.code < 300

/-- Where the kind stands in the declaration order. -/
def index (kind : Kind) : Nat :=
  all.idxOf kind

/-- The complaint about a name that is required to be in the vocabulary. -/
def unknownNameMessage (name : String) : String :=
  "unknown syntax kind '" ++ name ++ "'"

theorem mem_all (kind : Kind) : kind ∈ all := by
  cases kind <;> decide

/-- A kind is recovered from its name. -/
theorem ofName?_name (kind : Kind) : ofName? kind.name = some kind := by
  cases kind <;> rfl

/-- Different kinds have different names. -/
theorem name_injective {first second : Kind} (same : first.name = second.name) :
    first = second := by
  have recovered := ofName?_name first
  rw [same, ofName?_name] at recovered
  exact (Option.some.inj recovered).symm

end Kind

end TreeLint
