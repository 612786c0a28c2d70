import TypedMemory.FileSystem

/-!
# A file tree in memory

A working directory with the files and directories below it. Relative paths are
walked from it component by component, and the first component that does not let
the walk go on decides how it fails. Outside of the working directory there is
nothing to be found and nothing can be written. Files are written to a disk that has
room for everything, or to one that may run out of room while a file is written.
-/

namespace TypedMemory

namespace Simulation

/-- What a name in a directory stands for. -/
inductive Node where
  | file (content : Bytes)
  | directory
deriving Repr, DecidableEq

/-- How many bytes a file holds; a directory holds none. -/
def Node.size : Node → Nat
  | .file content => content.length
  | .directory => 0

/-- The files and directories below the working directory, each under the names
that lead to it. -/
structure FileTree where
  entries : List (List Bytes × Node) := []
deriving Repr, DecidableEq

/-- Where a walk has come to. -/
inductive Place where
  | inside (names : List Bytes)
  | outside
deriving Repr, DecidableEq

namespace FileTree

/-- The greatest length of a name. -/
def maxName : Nat := 255

/-- The length from which a path is too long. -/
def pathLimit : Nat := 4096

/-- What stands at a place, the working directory itself being a directory. -/
def entry? (tree : FileTree) : List Bytes → Option Node
  | [] => some .directory
  | names => tree.entries.lookup names

/-- What a name stands for in a directory. -/
def child? (tree : FileTree) (place : Place) (name : Bytes) : Option Node :=
  match place with
  | .inside names => tree.entry? (names ++ [name])
  | .outside => none

/-- The place that a name leads to. -/
def Place.enter (place : Place) (name : Bytes) : Place :=
  if name = Path.here then place
  else
    match place with
    | .outside => .outside
    | .inside names =>
        if name = Path.above then
          if names.isEmpty then .outside else .inside names.dropLast
        else .inside (names ++ [name])

/-- Whether a name leads from a directory to a directory without being looked
up. -/
def isStep (name : Bytes) : Bool :=
  name == Path.here || name == Path.above

/-- Walk along names that all have to be directories. -/
def walk (tree : FileTree) (place : Place) : List Bytes → Except IoFault Place
  | [] => .ok place
  | name :: names =>
      if isStep name then tree.walk (Place.enter place name) names
      else if maxName < name.length then .error .nameTooLong
      else
        match tree.child? place name with
        | none => .error .missing
        | some (.file _) => .error .notDirectory
        | some .directory => tree.walk (Place.enter place name) names

/-- A path taken apart: where it starts, the names before the last, the last, and
whether a separator follows it. -/
structure Route where
  start : Place
  parents : List Bytes
  last : Option Bytes
  trailing : Bool
deriving Repr, DecidableEq

/-- Take a path apart, unless no path may be spelled like that. -/
def route (path : Path) : Except IoFault Route :=
  if path.bytes.contains 0 then .error .nulInPath
  else if path.isEmpty then .error .missing
  else if pathLimit ≤ path.bytes.length then .error .nameTooLong
  else
    let names := (Path.segments path.bytes).filter (!·.isEmpty)
    .ok
      { start := if path.isRooted then .outside else .inside []
        parents := names.dropLast
        last := names.getLast?
        trailing := path.bytes.getLast? == some Path.separator }

/-- Read a whole file. -/
def read (tree : FileTree) (path : Path) : Except IoFault Bytes := do
  let route ← route path
  let place ← tree.walk route.start route.parents
  match route.last with
  | none => .error .isDirectory
  | some name =>
      if isStep name then .error .isDirectory
      else if maxName < name.length then .error .nameTooLong
      else
        match tree.child? place name with
        | none => .error .missing
        | some .directory => .error .isDirectory
        | some (.file content) =>
            if route.trailing then .error .notDirectory else .ok content

/-- The tree with a file put in the place of what was there. -/
def put (tree : FileTree) (names : List Bytes) (entry : Node) : FileTree :=
  ⟨(names, entry) :: tree.entries.filter fun other => other.1 != names⟩

/-- The names under which a file can be written by a path: in a directory that
exists, and not in the place of a directory. -/
def target (tree : FileTree) (path : Path) : Except IoFault (List Bytes) := do
  let route ← route path
  let place ← tree.walk route.start route.parents
  match route.last with
  | none => .error .isDirectory
  | some name =>
      if isStep name || route.trailing then .error .isDirectory
      else if maxName < name.length then .error .nameTooLong
      else
        match place, tree.child? place name with
        | _, some .directory => .error .isDirectory
        | .inside names, _ => .ok (names ++ [name])
        | .outside, _ => .error .denied

/-- Write a whole file. There is room for everything, so a write fails only where no
file can be written, and then it changes nothing. -/
def write (tree : FileTree) (path : Path) (content : Bytes) : Except IoFault Unit × FileTree :=
  match tree.target path with
  | .error fault => (.error fault, tree)
  | .ok names => (.ok (), tree.put names (.file content))

/-- How many bytes all files hold. -/
def size (tree : FileTree) : Nat :=
  tree.entries.foldr (fun entry total => entry.2.size + total) 0

/-- Make the directories along names that are not there yet. -/
def makeAlong (tree : FileTree) (place : Place) : List Bytes → Except IoFault FileTree
  | [] => .ok tree
  | name :: names =>
      if isStep name then tree.makeAlong (Place.enter place name) names
      else if maxName < name.length then .error .nameTooLong
      else
        match place, tree.child? place name with
        | _, some .directory => tree.makeAlong (Place.enter place name) names
        | _, some (.file _) => .error .notDirectory
        | .inside above, none =>
            (tree.put (above ++ [name]) .directory).makeAlong (Place.enter place name) names
        | .outside, none => .error .denied

/-- Make a directory, and all directories on the way to it. -/
def makeDirectory (tree : FileTree) (path : Path) : Except IoFault FileTree :=
  if path.bytes.contains 0 then .error .nulInPath
  else
    tree.makeAlong (if path.isRooted then .outside else .inside [])
      ((Path.segments path.bytes).filter (!·.isEmpty))

/-- Remove a file, or a directory and all below it. -/
def remove (tree : FileTree) (path : Path) : Except IoFault FileTree := do
  let route ← route path
  let place ← tree.walk route.start route.parents
  match route.last.map (Place.enter place) with
  | some (.inside names) =>
      if (tree.entry? names).isNone then .error .missing
      else .ok ⟨tree.entries.filter fun entry => !names.isPrefixOf entry.1⟩
  | _ => .error .denied

/-- The file system of file trees. -/
def fileSystem : FileSystem FileTree where
  read := read
  write := write

end FileTree

end Simulation

end TypedMemory
