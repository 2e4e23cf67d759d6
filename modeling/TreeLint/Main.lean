import TreeLint.Command.Run

/-!
# The program

The outermost layer copies the part of the disk that an invocation looks at into
a file system value, runs the program on it and prints the outcome.  Everything
that is decided is decided by `TreeLint.runProgram`.
-/

namespace TreeLint

/-- The paths that an invocation works on. -/
def Invocation.operands (invocation : Invocation) : List String :=
  match invocation.command with
  | some (.lint [] _ _ _) => ["."]
  | some (.lint paths _ _ _) => paths
  | some (.render file _) => [file]
  | _ => []

/-- Whether an invocation works on what lies below a directory that it names. -/
def Invocation.descends (invocation : Invocation) : Bool :=
  match invocation.command with
  | some (.lint _ _ _ _) => true
  | _ => false

namespace Snapshot

/-- The names of a path from the root directory down. -/
def namesOf (path : String) : List String :=
  (path.splitOn "/").filter fun piece => piece != ""

/-- The absolute path of a list of names. -/
def pathOf (names : List String) : String :=
  "/" ++ String.intercalate "/" names

/-- The names of the place that a path leads to through all links, if it leads anywhere. -/
def place? (path : String) : IO (Option (List String)) := do
  try
    return some (namesOf (← IO.FS.realPath path).toString)
  catch _ => return none

/-- What stands at a place itself, without following a link. -/
def kind? (names : List String) : IO (Option IO.FS.FileType) := do
  let root ← IO.FS.realPath "/"
  let path := names.foldl (fun path name => path / name) root
  try
    return some (← path.symlinkMetadata).type
  catch _ => return none

/-- A fault with the words of the system.  Too many links show when the kind of a file
is asked for, where numbers come negated. -/
def faultOf : IO.Error → FileFault
  | .noFileOrDirectory _ _ _ => .notFound
  | .invalidArgument _ 0xffffffd8 _ => .tooManyLinks
  | .permissionDenied _ code details
  | .resourceExhausted _ code details
  | .hardwareFault code details
  | .otherError code details => .other (details ++ " (os error " ++ toString code ++ ")")
  | error => .other error.toString

def read (names : List String) : IO (Except FileFault ByteArray) := do
  try
    return .ok (← IO.FS.readBinFile (pathOf names))
  catch error => return .error (faultOf error)

/-- The names of what a directory holds. -/
def entries (names : List String) : IO (Except FileFault (List String)) := do
  try
    let listed ← (← IO.FS.realPath (pathOf names)).readDir
    return .ok (listed.toList.map fun entry => entry.fileName)
  catch error => return .error (faultOf error)

/-- Notes a link with the place that it leads to in the end.  One that runs in a circle
is noted as a link to itself, and any other that leads nowhere is left out. -/
def withLink (system : FileSystem) (names : List String) : IO FileSystem := do
  let linked (target : List String) : FileSystem :=
    { system with links := (names, pathOf target) :: system.links }
  match ← place? (pathOf names) with
  | some place => return linked place
  | none =>
    match ← read names with
    | .error .tooManyLinks => return linked names
    | _ => return system

/-- Notes what stands at a place itself, unless it is there already.  A file is read, and
something special only where it is asked for. -/
def withOccupant (asked : Bool) (system : FileSystem) (names : List String) : IO FileSystem := do
  if (system.occupant? names).isSome then return system
  match ← kind? names with
  | none => return system
  | some .dir => return { system with directories := names :: system.directories }
  | some .symlink => withLink system names
  | some .other =>
    let content ← if asked then read names else pure (.error (.other "not read"))
    return { system with special := (names, content) :: system.special }
  | some .file =>
    match ← read names with
    | .ok content => return { system with files := (names, content) :: system.files }
    | .error fault => return { system with unreadable := (names, fault) :: system.unreadable }

/-- Notes what stands at a place, and at the place that it leads to if it is a link. -/
def withPlace (asked : Bool) (system : FileSystem) (names : List String) : IO FileSystem := do
  let system ← withOccupant asked system names
  match ← place? (pathOf names) with
  | some place => if place == names then return system else withOccupant asked system place
  | none => return system

/-- Notes all that lies below a place without following a link. -/
partial def withAllBelow (system : FileSystem) (names : List String) : IO FileSystem := do
  match ← kind? names with
  | some .dir =>
    match ← entries names with
    | .error fault => return { system with closed := (names, fault) :: system.closed }
    | .ok entries =>
      entries.foldlM (fun system entry => do
        let inner := names ++ [entry]
        withAllBelow (← withOccupant false system inner) inner) system
  | _ => return system

/-- Notes the configuration files of a place and of all directories above it. -/
def withConfigs (system : FileSystem) (names : List String) : IO FileSystem :=
  (List.range (names.length + 1)).foldlM (fun system depth =>
    configFileNames.foldlM (fun system name =>
      withPlace false system (names.take depth ++ [name])) system) system

/-- Notes what a path leads to, and what it leads through. -/
def withPath (descends : Bool) (system : FileSystem) (path : String) : IO FileSystem := do
  let components := Path.components path
  let steps := (List.range components.length).map fun count =>
    Path.ofComponents (components.take (count + 1))
  let system ← steps.foldlM (fun system step => do
    match ← place? (Path.directory step), Path.fileName? step with
    | some holder, some name => withPlace (!descends) system (holder ++ [name])
    | _, _ => return system) system
  match ← place? path with
  | some names =>
    let system ← withOccupant (!descends) system names
    let system ← if descends then withAllBelow system names else pure system
    withConfigs system names
  | none => return system

/-- The part of the disk that an invocation looks at.  Every run looks for a
configuration from the working directory upwards at least. -/
def take (invocation : Invocation) : IO FileSystem := do
  let working := (← place? ".").getD []
  let start : FileSystem :=
    { base := "/", working := working, files := [], directories := [working] }
  let system ← invocation.config.toList.foldlM (withPath false) start
  let system ← invocation.operands.foldlM (withPath invocation.descends) system
  withConfigs system working

end Snapshot

end TreeLint

open TreeLint in
/-- Runs the program on the command line's arguments. -/
def main (arguments : List String) : IO UInt32 := do
  let invocation := (Invocation.ofArguments arguments).toOption.getD ⟨none, none, true⟩
  let system ← Snapshot.take invocation
  let noColorWanted := (← IO.getEnv "NO_COLOR").isSome
  let result := runProgram system noColorWanted arguments
  for entry in result.log do
    IO.eprintln entry.display
  IO.print result.output
  return result.exit.toUInt32
