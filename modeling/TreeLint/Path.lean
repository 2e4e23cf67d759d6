/-!
# Paths

A path is text whose components are divided by slashes.  Repeated slashes and
inner `.` components do not count, but a leading `.` does.  Paths are ordered
component by component: the root first, then a leading `.`, then `..`, then
names by their code points.
-/

namespace TreeLint

namespace Path

/-- One component of a path. -/
inductive Component where
  | root
  | current
  | parent
  | name (text : String)
deriving DecidableEq, Repr

/-- The text of a component that is a name. -/
def Component.name? : Component → Option String
  | .name text => some text
  | _ => none

/-- The rank of a component among components of other sorts. -/
def Component.rank : Component → Nat
  | .root => 0
  | .current => 1
  | .parent => 2
  | .name _ => 3

/-- Components are ordered by rank, names among themselves by their text. -/
def Component.compare : Component → Component → Ordering
  | .name first, .name second =>
    if first < second then .lt else if first = second then .eq else .gt
  | first, second => Ord.compare first.rank second.rank

/-- The texts between the slashes of a path. -/
def pieces (path : String) : List String :=
  (path.toList.splitOn '/').map String.ofList

/-- The components of the pieces between slashes, none of which is leading. -/
def ofPieces (pieces : List String) : List Component :=
  pieces.filterMap fun piece =>
    if piece == "" || piece == "." then none
    else if piece == ".." then some .parent
    else some (.name piece)

/-- The components of a path. -/
def components (path : String) : List Component :=
  match pieces path with
  | [piece] => if piece == "." then [.current] else ofPieces [piece]
  | "" :: pieces => .root :: ofPieces pieces
  | "." :: pieces => .current :: ofPieces pieces
  | pieces => ofPieces pieces

/-- Whether a path can only name a directory: nothing or a `.` stands behind its last
slash. -/
def asksForDirectory (path : String) : Bool :=
  ["", "."].contains ((pieces path).getLastD "")

/-- The components to follow from a directory to the end of a path.  Behind a path that
can only name a directory there is a `.` to follow from there. -/
def steps (path : String) : List Component :=
  if asksForDirectory path then components path ++ [.current] else components path

/-- The order of lists of components, a shorter list before its extensions. -/
def compareComponents : List Component → List Component → Ordering
  | [], [] => .eq
  | [], _ :: _ => .lt
  | _ :: _, [] => .gt
  | first :: firsts, second :: seconds =>
    match first.compare second with
    | .eq => compareComponents firsts seconds
    | order => order

/-- The order of paths. -/
def compare (first second : String) : Ordering :=
  compareComponents (components first) (components second)

/-- Whether two paths have the same components. -/
def same (first second : String) : Bool :=
  compare first second == .eq

/-- The path of an entry of a directory. -/
def join (directory entry : String) : String :=
  if directory.endsWith '/' then directory ++ entry else directory ++ "/" ++ entry

/-- The last component of a path, if it is a name. -/
def fileName? (path : String) : Option String :=
  (components path).getLast?.bind Component.name?

/-- What stands behind the last dot of a file name that does not start with its
only dot. -/
def extension? (path : String) : Option String :=
  match fileName? path with
  | none => none
  | some name =>
    let chars := name.toList.reverse
    match chars.dropWhile (· != '.') with
    | [] => none
    | [_] => none
    | _ => some (String.ofList (chars.takeWhile (· != '.')).reverse)

/-- A path with the same components, written without redundancy. -/
def ofComponents (components : List Component) : String :=
  let piece : Component → String
    | .root => ""
    | .current => "."
    | .parent => ".."
    | .name text => text
  match components with
  | [.root] => "/"
  | components => String.intercalate "/" (components.map piece)

/-- The path without its last component; `.` where nothing is left. -/
def directory (path : String) : String :=
  match (components path).dropLast with
  | [] => "."
  | components => ofComponents components

end Path

end TreeLint
