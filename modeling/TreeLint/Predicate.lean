import TreeLint.Tree.Basic

/-!
# Syntactic predicates

Small questions about names and nodes that several checks ask: whether a
variable is a superglobal, whether a class member is static, whether an
expression is a bare boolean.
-/

namespace TreeLint

/-- The deprecated predefined arrays with the superglobals that replaced them. -/
def predefinedVariables : List (String × String) :=
  [("$HTTP_SERVER_VARS", "$_SERVER"),
   ("$HTTP_GET_VARS", "$_GET"),
   ("$HTTP_POST_VARS", "$_POST"),
   ("$HTTP_POST_FILES", "$_FILES"),
   ("$HTTP_SESSION_VARS", "$_SESSION"),
   ("$HTTP_ENV_VARS", "$_ENV"),
   ("$HTTP_COOKIE_VARS", "$_COOKIE")]

/-- Whether a variable, written with its sigil, is a superglobal.  The deprecated
names are not. -/
def isSuperGlobal (name : String) : Bool :=
  name == "$GLOBALS" || predefinedVariables.any fun entry => entry.2 == name

namespace Tree

/-- Whether one of the modifiers of a class member is the keyword `static`. -/
def isStaticMember (tree : Tree) (modifiers : List Nat) : Bool :=
  modifiers.any fun modifier =>
    match tree.firstChild? modifier with
    | some keyword => tree.kind keyword == .staticKw
    | none => false

/-- Whether an expression is just `true` or `false`.  Asking this of anything
but an expression is an error. -/
def isBooleanLiteral (tree : Tree) (id : Nat) : Except Error Bool :=
  if !(tree.kind id).isExpression then
    .error (.malformedTree (.notAnExpression (tree.kind id)))
  else
    .ok (tree.kind id == .literal &&
      match tree.firstChild? id with
      | some value => tree.kind value == .trueKw || tree.kind value == .falseKw
      | none => false)

end Tree

end TreeLint
