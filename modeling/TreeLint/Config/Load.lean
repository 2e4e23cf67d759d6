import TreeLint.Config.Decode
import TreeLint.Config.FromToml
import TreeLint.Files

/-!
# Loading configuration

A configuration is loaded from a file that is named explicitly, or from the
nearest configuration file at or above a starting point.  Where there is none,
the empty configuration applies.
-/

namespace TreeLint

def configFileNames : List String :=
  [".quillrc.json", ".quillrc.toml", "quill.json", "quill.toml"]

/-- The complaint about a file whose extension names no format.  A path that ends
like a document all the same, as the bare name `.json` does, is refused as a
malformed document. -/
def ConfigFault.ofUnknownFormat (path : String) : ConfigFault :=
  if path.endsWith ".json" then .json .malformed
  else if path.endsWith ".toml" then .toml
  else .extension

/-- The configuration in the content of a file; the path decides the format and
stands in complaints. -/
def Config.ofContent (path : String) (content : Except FileFault String) :
    Except Error Config :=
  match content with
  | .error fault => .error (.file path fault)
  | .ok text =>
    match Path.extension? path with
    | some "json" =>
      match Config.ofJson text with
      | .ok config => .ok config
      | .error fault => .error (.config (.refused path (.json fault)))
    | some "toml" =>
      match Config.ofToml? text with
      | some config => .ok config
      | none => .error (.config (.refused path .toml))
    | _ => .error (.config (.refused path (.ofUnknownFormat path)))

namespace FileSystem

/-- The place of the configuration file of a directory, with its content.  The file
may stand behind a link of its name. -/
def configIn? (system : FileSystem) (directory : List String) : Option (List String × Entry) :=
  configFileNames.findSome? fun name =>
    match system.follow linkLimit directory [.name name] with
    | .ok (_, .file content) => some (directory ++ [name], .file content)
    | _ => none

/-- The nearest configuration file, from the first `depth` names of a place upwards. -/
def configAbove? (system : FileSystem) (place : List String) :
    Nat → Option (List String × Entry)
  | 0 => system.configIn? []
  | depth + 1 =>
    match system.configIn? (place.take (depth + 1)) with
    | some found => some found
    | none => system.configAbove? place depth

/-- Searches for a configuration file from a starting point upwards. -/
def findConfig (system : FileSystem) (start : String) :
    Except Error (Option (List String × Entry)) :=
  match system.locate start with
  | .error fault => .error (.config (.invalidStart fault))
  | .ok (place, _) => .ok (system.configAbove? place place.length)

/-- The path of the configuration file that applies at a starting point. -/
def discoverConfig (system : FileSystem) (start : String) : Except Error (Option String) :=
  (system.findConfig start).map fun found =>
    found.map fun (place, _) => system.absolute place

def loadConfigFile (system : FileSystem) (path : String) : Except Error Config :=
  Config.ofContent path (system.readText path)

/-- Loads the configuration at a path if one is given, and otherwise the nearest
one at or above the starting point. -/
def loadConfig (system : FileSystem) (path : Option String) (start : String) :
    Except Error Config :=
  match path with
  | some path =>
    if system.exists? path then system.loadConfigFile path
    else .error (.config (.notFound path))
  | none =>
    match system.findConfig start with
    | .error error => .error error
    | .ok none => .ok {}
    | .ok (some (place, entry)) => Config.ofContent (system.absolute place) entry.readText

end FileSystem

end TreeLint
