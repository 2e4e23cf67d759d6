import TreeLint.Error
import TreeLint.Path

/-!
# A file system as a value

Everything that the linter does with files depends on a finite content: the
files of a directory tree with their bytes, its directories, its symbolic links
and what is none of these, such as a device.  The tree stands at a base path, and
relative paths are resolved from a working directory inside it.  A place is the
list of names that lead to it from the root of the disk, so absolute paths and
paths that climb above the base are resolved like all others.  Outside the tree
there are only the directories on the way to its base.

Every directory can be entered, but it need not be possible to list a directory or
to read a file.  A link is followed on the way to the end of a path, up to a limited
number of links.  What lies below a directory is found without following any.

Names and paths are limited in length.  The limit on paths is one of text: it
holds for a path as it is written, and not for the search of the place that the
path leads to, which goes name by name.
-/

namespace TreeLint

/-- What a path leads to. -/
inductive Entry where
  /-- A regular file, with its content or the reason why it cannot be read. -/
  | file (content : Except FileFault ByteArray)
  | directory
  /-- Something else, such as a pipe or a device, with what reading it gives. -/
  | special (content : Except FileFault ByteArray)

def Entry.content : Entry → Except FileFault ByteArray
  | .file content => content
  | .directory => .error .isADirectory
  | .special content => content

def Entry.readText (entry : Entry) : Except FileFault String :=
  match entry.content with
  | .error fault => .error fault
  | .ok content =>
    match String.fromUTF8? content with
    | some text => .ok text
    | none => .error .notUnicode

/-- What stands at a place. -/
inductive Occupant where
  | entry (entry : Entry)
  /-- A symbolic link with the path that it stands for. -/
  | link (target : String)

structure FileSystem where
  /-- The absolute path of the top directory. -/
  base : String
  /-- The names from the top directory down to the working directory. -/
  working : List String
  /-- The files that can be read, by their names from the top directory down. -/
  files : List (List String × ByteArray)
  /-- Directories besides those that hold something. -/
  directories : List (List String)
  /-- The directories that cannot be listed. -/
  closed : List (List String × FileFault) := []
  /-- The files that cannot be read. -/
  unreadable : List (List String × FileFault) := []
  /-- What is neither a file nor a directory, with what reading it gives. -/
  special : List (List String × Except FileFault ByteArray) := []
  /-- The symbolic links with the paths that they stand for. -/
  links : List (List String × String) := []

def nameLimit : Nat := 255

def pathLimit : Nat := 4095

/-- The number of links that are followed on the way to the end of a path. -/
def linkLimit : Nat := 40

/-- How far the components of a path lead without following a link. -/
inductive Reach where
  | arrived (place : List String) (entry : Entry)
  /-- At a link: the directory that holds it, and what is to be followed from there. -/
  | linked (holder : List String) (components : List Path.Component)

namespace FileSystem

/-! ## What stands where -/

/-- The place of the top directory. -/
def top (system : FileSystem) : List String :=
  (Path.components system.base).filterMap Path.Component.name?

/-- Puts what is listed from the top directory down to its place on the disk. -/
def placed {α : Type} (system : FileSystem) (listed : List (List String × α)) :
    List (List String × α) :=
  listed.map fun (names, value) => (system.top ++ names, value)

/-- The regular files by their places. -/
def contents (system : FileSystem) : List (List String × Except FileFault ByteArray) :=
  let readable := system.files.map fun (names, content) => (names, Except.ok content)
  let unreadable := system.unreadable.map fun (names, fault) => (names, Except.error fault)
  system.placed (readable ++ unreadable)

/-- Places of directories such that every other directory lies above one of them. -/
def holders (system : FileSystem) : List (List String) :=
  let directories := [] :: system.directories ++ system.closed.map Prod.fst
  let others := system.files.map Prod.fst ++ system.unreadable.map Prod.fst ++
    system.special.map Prod.fst ++ system.links.map Prod.fst
  (directories ++ others.map List.dropLast).map fun names => system.top ++ names

/-- What stands at a place. -/
def occupant? (system : FileSystem) (place : List String) : Option Occupant :=
  match system.contents.lookup place with
  | some content => some (.entry (.file content))
  | none =>
    match (system.placed system.special).lookup place with
    | some content => some (.entry (.special content))
    | none =>
      match (system.placed system.links).lookup place with
      | some target => some (.link target)
      | none =>
        match system.holders.find? fun holder => place.isPrefixOf holder with
        | some _ => some (.entry .directory)
        | none => none

/-- The files below a place, by their names from there down. -/
def below (system : FileSystem) (place : List String) : List (List String) :=
  system.contents.filterMap fun file =>
    if place.isPrefixOf file.1 && place.length < file.1.length then
      some (file.1.drop place.length)
    else none

/-- The directories below a place, by their names from there down, some of them
perhaps more than once. -/
def directoriesBelow (system : FileSystem) (place : List String) : List (List String) :=
  system.holders.flatMap fun holder =>
    if place.isPrefixOf holder then
      let relative := holder.drop place.length
      (List.range relative.length).map fun depth => relative.take (depth + 1)
    else []

/-- The absolute path of a place. -/
def absolute (system : FileSystem) (place : List String) : String :=
  if system.top.isPrefixOf place then
    (place.drop system.top.length).foldl Path.join system.base
  else place.foldl Path.join "/"

/-! ## Where a path leads -/

/-- Follows the components of a path from a directory, up to the first link.  Every
component but the last has to lead to a directory. -/
def advance (system : FileSystem) :
    List String → List Path.Component → Except FileFault Reach
  | directory, [] => .ok (.arrived directory .directory)
  | _, .root :: rest => system.advance [] rest
  | directory, .current :: rest => system.advance directory rest
  | directory, .parent :: rest => system.advance directory.dropLast rest
  | directory, .name text :: rest =>
    if nameLimit < text.utf8ByteSize then .error .nameTooLong
    else
      let next := directory ++ [text]
      match system.occupant? next with
      | none => .error .notFound
      | some (.link target) => .ok (.linked directory (Path.steps target ++ rest))
      | some (.entry .directory) => system.advance next rest
      | some (.entry entry) =>
        if rest.isEmpty then .ok (.arrived next entry) else .error .notADirectory

/-- Follows the components of a path from a directory to the end, and with them at most
the given number of links. -/
def follow (system : FileSystem) (links : Nat) (directory : List String)
    (components : List Path.Component) : Except FileFault (List String × Entry) :=
  match system.advance directory components with
  | .error fault => .error fault
  | .ok (.arrived place entry) => .ok (place, entry)
  | .ok (.linked holder components) =>
    match links with
    | 0 => .error .tooManyLinks
    | links + 1 => system.follow links holder components

/-- The place that a path leads to, found name by name, with what stands there. -/
def locate (system : FileSystem) (path : String) : Except FileFault (List String × Entry) :=
  if path.toList.contains '\x00' then .error .zeroCharacter
  else if path.isEmpty then .error .notFound
  else system.follow linkLimit (system.top ++ system.working) (Path.steps path)

/-- The place that a path leads to with what stands there, unless the text of the path
is too long. -/
def find (system : FileSystem) (path : String) : Except FileFault (List String × Entry) :=
  if path.toList.contains '\x00' then .error .zeroCharacter
  else if pathLimit < path.utf8ByteSize then .error .nameTooLong
  else system.locate path

def exists? (system : FileSystem) (path : String) : Bool :=
  match system.find path with
  | .ok _ => true
  | .error _ => false

def isFile (system : FileSystem) (path : String) : Bool :=
  match system.find path with
  | .ok (_, .file _) => true
  | _ => false

def isDirectory (system : FileSystem) (path : String) : Bool :=
  match system.find path with
  | .ok (_, .directory) => true
  | _ => false

def readText (system : FileSystem) (path : String) : Except FileFault String :=
  match system.find path with
  | .error fault => .error fault
  | .ok (_, entry) => entry.readText

end FileSystem

end TreeLint
