import ODataQuery.Files.Access

/-!
# File trees

Files and directories as a value, for programs that are to run without a file system.

* `FileTree.walk` follows a path name by name.  Every name before the last has to be that of a
  directory; `.` and the empty name stay where they are, and `..` goes up.
* `FileTree.makeDirectory` makes a directory with those above it.
* `FileTree.access`: the operations on files, with a tree as their state.
-/

set_option autoImplicit false

namespace ODataQuery

/-- The place of a file or a directory: the names that lead to it from the root. -/
abbrev Location := List String

/-- What is at a location. -/
inductive FileEntry where
  | directory
  | file (text : String)
  deriving DecidableEq, Repr

/-- Files and directories. -/
structure FileTree where
  /-- Where paths start that do not start at the root. -/
  workingDirectory : Location
  entries : List (Location × FileEntry)
  deriving DecidableEq, Repr

namespace FileTree

/-- What is at a location. -/
def entry? (tree : FileTree) (location : Location) : Option FileEntry :=
  tree.entries.lookup location

/-- The tree with an entry added or replaced. -/
def insert (tree : FileTree) (location : Location) (entry : FileEntry) : FileTree :=
  { tree with entries := (location, entry) :: tree.entries }

/-- A location and those above it, from the root downwards. -/
def lineOf : Location → List Location
  | [] => [[]]
  | name :: rest => [] :: (lineOf rest).map (name :: ·)

/-- The tree without files, whose directories are the working directory and those above it. -/
def ofWorkingDirectory (location : Location) : FileTree where
  workingDirectory := location
  entries := (lineOf location).map (·, .directory)

/-! ## Paths -/

/-- The most bytes that a name can have. -/
def maxNameSize : Nat := 255

/-- The most bytes that a path can have. -/
def maxPathSize : Nat := 4095

/-- The location where a path starts, and the names that it is made of. -/
def start (tree : FileTree) (path : String) : Except FileError (Location × List String) :=
  if path.contains '\x00' then .error .brokenPath
  else if maxPathSize < path.utf8ByteSize then .error .nameTooLong
  else .ok (if path.startsWith "/" then [] else tree.workingDirectory, path.splitOn "/")

/-- The location that one name leads to. -/
def child (location : Location) (name : String) : Except FileError Location :=
  if name = "" || name = "." then .ok location
  else if name = ".." then .ok location.dropLast
  else if maxNameSize < name.utf8ByteSize then .error .nameTooLong
  else .ok (location ++ [name])

/-- The location that names lead to. -/
def walk (tree : FileTree) : Location → List String → Except FileError Location
  | location, [] => .ok location
  | location, name :: rest =>
    match tree.entry? location with
    | some .directory => do walk tree (← child location name) rest
    | some (.file _) => .error .notADirectory
    | none => .error .notFound

/-- The location of a path. -/
def locate (tree : FileTree) (path : String) : Except FileError Location := do
  let (location, names) ← tree.start path
  tree.walk location names

/-! ## Operations -/

/-- The text of a file. -/
def read (tree : FileTree) (path : String) : Except FileError String := do
  match tree.entry? (← tree.locate path) with
  | some (.file text) => .ok text
  | some .directory => .error .isADirectory
  | none => .error .notFound

/-- Is there a file or a directory at a path. -/
def isPresent (tree : FileTree) (path : String) : Except FileError Bool :=
  match tree.locate path with
  | .ok location => .ok (tree.entry? location).isSome
  | .error .notFound => .ok false
  | .error error => .error error

/-- The names of the directories that are made for a path.  A name with nothing but `.` after it is
not among them, since such a path stands for a directory that is there. -/
def namesToMake (names : List String) : List String :=
  let names := names.filter (· ≠ "")
  match names.reverse with
  | "." :: rest => (rest.dropWhile (· = ".")).tail.reverse
  | _ => names

/-- Make all names on the way from a location those of directories, up to the first that cannot
be. -/
def makeDirectories : Location → List String → StateM FileTree (Except FileError Unit)
  | _, [] => pure (.ok ())
  | location, name :: rest => do
    match child location name with
    | .error error => pure (.error error)
    | .ok location =>
      let tree ← get
      match tree.entry? location with
      | some .directory => makeDirectories location rest
      | some (.file _) => pure (.error .alreadyExists)
      | none => do
        modify (·.insert location .directory)
        makeDirectories location rest

/-- Nothing but a directory at a path will do. -/
def requireDirectory (tree : FileTree) (path : String) : Except FileError Unit := do
  match tree.entry? (← tree.locate path) with
  | some .directory => .ok ()
  | some (.file _) => .error .alreadyExists
  | none => .error .notFound

/-- Make a directory, with those above it.  The path is first followed through what is there, and
only if something is missing on the way is anything made. -/
def makeDirectory (path : String) : StateM FileTree (Except FileError Unit) := do
  let tree ← get
  match tree.start path, tree.requireDirectory path with
  | _, .ok () => pure (.ok ())
  | .ok (location, names), .error .notFound =>
    match ← makeDirectories location (namesToMake names) with
    | .ok () => return (← get).requireDirectory path
    | .error error => pure (.error error)
  | _, .error error => pure (.error error)

/-- The tree in which a file has a text. -/
def write (tree : FileTree) (path text : String) : Except FileError FileTree := do
  let location ← tree.locate path
  match tree.entry? location with
  | some .directory => .error .isADirectory
  | _ => .ok (tree.insert location (.file text))

/-- The operations on files, with a tree as their state. -/
def access : FileAccess (StateM FileTree) where
  read path := return (← get).read path
  isPresent path := return (← get).isPresent path
  makeDirectory := makeDirectory
  write path text := do
    match (← get).write path text with
    | .ok changed => set changed; pure (.ok ())
    | .error error => pure (.error error)

end FileTree
end ODataQuery
