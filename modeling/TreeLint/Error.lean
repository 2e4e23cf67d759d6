import TreeLint.Kind
import TreeLint.Json.Fault

/-!
# What can go wrong

Every failure of the engine is a cause: a tree that breaks a structural
precondition, a registration that is refused, a check that gives up, a
configuration or an input that cannot be read.  The wording of all of them is
in the `message` functions of this module.
-/

namespace TreeLint

/-- Structural preconditions that a tree can break. -/
inductive Malformation where
  /-- An absent slot was added outside of any node. -/
  | slotOutsideNode
  /-- A node was closed although none was open. -/
  | nothingOpen
  /-- Nodes were still open when the tree was frozen. -/
  | leftOpen (count : Nat) (innermost : Kind)
  | noRoot
  | severalRoots (count : Nat)
  | tokenWithChildren (text : String) (kind : Kind)
  | tokenWithoutPosition (text : String) (kind : Kind)
  /-- A jump statement without a token. -/
  | noKeyword (kind : Kind)
  | notAnExpression (kind : Kind)
  /-- A complaint of a check in its own words. -/
  | other (text : String)
deriving DecidableEq, Repr

def Malformation.message : Malformation → String
  | .slotOutsideNode => "an absent slot needs an enclosing node"
  | .nothingOpen => "finish_node called with no open node"
  | .leftOpen count innermost =>
    toString count ++ " node(s) left open, innermost '" ++ innermost.name ++ "'"
  | .noRoot => "tree has no root"
  | .severalRoots count => "tree has " ++ toString count ++ " roots, expected exactly one"
  | .tokenWithChildren text kind =>
    "token '" ++ text ++ "' of kind '" ++ kind.name ++ "' must not have children"
  | .tokenWithoutPosition text kind =>
    "token '" ++ text ++ "' of kind '" ++ kind.name ++ "' has no line/column"
  | .noKeyword kind => kind.name ++ " has no keyword token"
  | .notAnExpression kind => "expected an expression, found '" ++ kind.name ++ "'"
  | .other text => text

/-- Why a file or a directory could not be used. -/
inductive FileFault where
  | notFound
  | permissionDenied
  | notADirectory
  | isADirectory
  | nameTooLong
  | tooManyLinks
  | notUnicode
  /-- A path that contains the character of number zero, which no name may. -/
  | zeroCharacter
  /-- A fault in the words of the operating system. -/
  | other (text : String)
deriving DecidableEq, Repr

def FileFault.message : FileFault → String
  | .notFound => "No such file or directory (os error 2)"
  | .permissionDenied => "Permission denied (os error 13)"
  | .notADirectory => "Not a directory (os error 20)"
  | .isADirectory => "Is a directory (os error 21)"
  | .nameTooLong => "File name too long (os error 36)"
  | .tooManyLinks => "Too many levels of symbolic links (os error 40)"
  | .notUnicode => "stream did not contain valid UTF-8"
  | .zeroCharacter => "file name contained an unexpected NUL byte"
  | .other text => text

/-- Why the content of a configuration file was refused. -/
inductive ConfigFault where
  | json (fault : Json.Fault)
  | toml
  /-- The file name ends neither in `.json` nor in `.toml`. -/
  | extension
deriving DecidableEq, Repr

def ConfigFault.message : ConfigFault → String
  | .json fault => fault.message
  | .toml => "toml error"
  | .extension => "unsupported file extension (expected .json or .toml)"

/-- Why no configuration could be loaded. -/
inductive ConfigError where
  | notFound (path : String)
  | invalidStart (fault : FileFault)
  | refused (path : String) (fault : ConfigFault)
  | other (text : String)
deriving DecidableEq, Repr

def ConfigError.message : ConfigError → String
  | .notFound path => "Config file not found: " ++ path
  | .invalidStart fault => "Invalid path: " ++ fault.message
  | .refused path fault =>
    "Failed to load config from '" ++ path ++ "': " ++ fault.message
  | .other text => text

/-- The failures of the engine. -/
inductive Error where
  | malformedTree (cause : Malformation)
  /-- A property of tokens was asked of a compound node. -/
  | notAToken (kind : Kind) (property : String)
  | emptySubscription (rule : String)
  | duplicateRule (rule : String)
  | unknownKindSubscription (rule : String)
  | unknownCheck (id : Nat)
  | checkFailed (rule : String) (text : String)
  | config (cause : ConfigError)
  /-- A serialized tree that could not be decoded. -/
  | input (fault : Json.Fault)
  | file (path : String) (fault : FileFault)
deriving DecidableEq, Repr

/-- The families of failures. -/
inductive ErrorFamily where
  | malformedInput
  | registration
  | check
  | config
  | input
  | file
deriving DecidableEq, Repr

namespace Error

def message : Error → String
  | .malformedTree cause => "Malformed tree: " ++ cause.message
  | .notAToken kind property =>
    "Node of kind '" ++ kind.name ++ "' is not a token; '" ++ property ++
      "' is only defined on leaves"
  | .emptySubscription rule =>
    "Check '" ++ rule ++ "' must subscribe to at least one node kind"
  | .duplicateRule rule => "A check with rule key '" ++ rule ++ "' is already registered"
  | .unknownKindSubscription rule =>
    "Check '" ++ rule ++ "' cannot subscribe to unknown node kinds"
  | .unknownCheck id => "Unknown check id " ++ toString id
  | .checkFailed rule text => "Check '" ++ rule ++ "' failed: " ++ text
  | .config cause => "Configuration error: " ++ cause.message
  | .input fault => "Invalid tree input: " ++ fault.message
  | .file path fault => "IO error for path '" ++ path ++ "': " ++ fault.message

def family : Error → ErrorFamily
  | .malformedTree _ => .malformedInput
  | .notAToken _ _ => .malformedInput
  | .emptySubscription _ => .registration
  | .duplicateRule _ => .registration
  | .unknownKindSubscription _ => .registration
  | .unknownCheck _ => .registration
  | .checkFailed _ _ => .check
  | .config _ => .config
  | .input _ => .input
  | .file _ _ => .file

/-- Whether a failure spoils one tree only, so that others may still be
analyzed. -/
def recoverable (error : Error) : Bool :=
  match error.family with
  | .malformedInput => true
  | .check => true
  | .input => true
  | _ => false

end Error

end TreeLint
