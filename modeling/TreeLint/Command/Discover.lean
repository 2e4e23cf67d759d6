import TreeLint.Config.Load
import TreeLint.Glob

/-!
# Discovering the files to lint

A file that is named explicitly is linted unless its path is excluded.  Below a
directory all files are linted whose path from there is included and not
excluded; configuration files are passed over, and so is what is no regular file,
links included.  The result is sorted by path order, and of equal paths the first
one stays.  A directory cannot be walked if it or a directory below it cannot be
listed, as is the case where its path becomes too long on the way down.
-/

namespace TreeLint

/-- Why the files to lint could not be determined. -/
inductive DiscoveryError where
  | invalidPattern (pattern : String) (error : Glob.PatternError)
  | missingPath (path : String)
  /-- At or below a path, a directory could not be listed. -/
  | unwalkable (path directory : String) (fault : FileFault)
deriving DecidableEq, Repr

def DiscoveryError.message : DiscoveryError → String
  | .invalidPattern pattern error =>
    "invalid glob pattern '" ++ pattern ++ "': " ++ error.message
  | .missingPath path => "path does not exist: " ++ path
  | .unwalkable path directory fault =>
    "failed to walk '" ++ path ++ "': IO error for operation on " ++ directory ++ ": " ++
      fault.message ++ ": " ++ fault.message

/-- Reads a list of patterns, up to the first invalid one. -/
def compilePatterns : List String → Except DiscoveryError (List (List Glob.Piece))
  | [] => .ok []
  | pattern :: rest =>
    match Glob.parse pattern with
    | .error error => .error (.invalidPattern pattern error)
    | .ok pieces => (compilePatterns rest).map fun compiled => pieces :: compiled

def matchesAny (patterns : List (List Glob.Piece)) (path : String) : Bool :=
  patterns.any fun pattern => Glob.isMatch pattern path

/-- Removes paths that are the same as the path before them. -/
def dropRepeated : List String → List String
  | [] => []
  | [path] => [path]
  | first :: second :: rest =>
    if Path.same first second then dropRepeated (first :: rest)
    else first :: dropRepeated (second :: rest)

/-- Sorts paths and keeps the first of equal ones. -/
def sortPaths (paths : List String) : List String :=
  dropRepeated (paths.mergeSort fun first second => Path.compare first second != .gt)

namespace FileSystem

/-- Why a directory below a place cannot be listed by the path that continues the path
of the place, if it cannot. -/
def refusal? (system : FileSystem) (path : String) (place relative : List String) :
    Option FileFault :=
  if pathLimit < (relative.foldl Path.join path).utf8ByteSize then some .nameTooLong
  else (system.placed system.closed).lookup (place ++ relative)

/-- The first directory, in path order, at or below a place that cannot be listed. -/
def firstRefusal? (system : FileSystem) (path : String) (place : List String) :
    Option (String × FileFault) :=
  let refused := ([] :: system.directoriesBelow place).filterMap fun relative =>
    (system.refusal? path place relative).map fun fault =>
      (relative.foldl Path.join path, fault)
  (refused.mergeSort fun first second => Path.compare first.1 second.1 != .gt).head?

/-- The files below a place whose paths from there pass the patterns, by their names
from there down.  Configuration files are passed over. -/
def selectedBelow (system : FileSystem) (included excluded : List (List Glob.Piece))
    (place : List String) : List (List String) :=
  (system.below place).filter fun relative =>
    let text := String.intercalate "/" relative
    !configFileNames.contains (relative.getLastD "") && matchesAny included text &&
      !matchesAny excluded text

/-- The files to lint for a path.  What is neither a file nor a directory counts as
missing. -/
def filesFor (system : FileSystem) (included excluded : List (List Glob.Piece))
    (path : String) : Except DiscoveryError (List String) :=
  match system.find path with
  | .ok (_, .file _) => .ok (if matchesAny excluded path then [] else [path])
  | .ok (place, .directory) =>
    match system.firstRefusal? path place with
    | some (directory, fault) => .error (.unwalkable path directory fault)
    | none =>
      .ok ((system.selectedBelow included excluded place).map fun relative =>
        relative.foldl Path.join path)
  | .ok (_, .special _) | .error _ => .error (.missingPath path)

/-- The files to lint for each path argument, up to the first path that leads
nowhere. -/
def filesForAll (system : FileSystem) (included excluded : List (List Glob.Piece)) :
    List String → Except DiscoveryError (List String)
  | [] => .ok []
  | path :: rest =>
    match system.filesFor included excluded path with
    | .error error => .error error
    | .ok files => (system.filesForAll included excluded rest).map fun more => files ++ more

/-- The files that a list of path arguments and a configuration select.  A list
of patterns that the configuration leaves open is empty. -/
def discoverFiles (system : FileSystem) (config : Config) (paths : List String) :
    Except DiscoveryError (List String) :=
  match compilePatterns (config.filesConfig.included.getD []) with
  | .error error => .error error
  | .ok included =>
    match compilePatterns (config.filesConfig.excluded.getD []) with
    | .error error => .error error
    | .ok excluded => (system.filesForAll included excluded paths).map sortPaths

end FileSystem

end TreeLint
