import TypeSchema.Command.System
import TypeSchema.Text.FilePath

/-!
# Runs in memory

Surroundings in which files are kept in a tree, and in which outputs and the log are collected. A
path leads from the top of the tree through directories; no path leads out of the tree.
-/

namespace TypeSchema.Command

/-- The names on the way from the top to a file or directory. -/
abbrev Location := List String

/-- Files and directories. The top is a directory always. -/
structure FileTree where
  /-- The files with their contents. -/
  files : List (Location × String) := []
  /-- The directories below the top. -/
  directories : List Location := []
  deriving Repr, DecidableEq

namespace FileTree

/-- The content of the file at a location. -/
def content? (tree : FileTree) (location : Location) : Option String :=
  (tree.files.find? fun file => file.1 == location).map Prod.snd

/-- Is there a file? -/
def isFile (tree : FileTree) (location : Location) : Bool := (tree.content? location).isSome

/-- Is there a directory? -/
def isDirectory (tree : FileTree) (location : Location) : Bool :=
  location.isEmpty || location ∈ tree.directories

/-- One step from a directory. -/
def step (directory : Location) (name : String) : Option Location :=
  if FilePath.isFiller name then some directory
  else if name = ".." then if directory.isEmpty then none else some directory.dropLast
  else some (directory ++ [name])

/-- Where several steps lead from a directory. All but the last must lead to directories. -/
def walk (tree : FileTree) (directory : Location) : List String → Option Location
  | [] => some directory
  | name :: rest => do
    let next ← step directory name
    if rest.isEmpty then some next
    else if tree.isDirectory next then walk tree next rest
    else none

/-- The location of a path. -/
def locate (tree : FileTree) (path : String) : Option Location :=
  if path.isEmpty || FilePath.isAbsolute path then none else tree.walk [] (FilePath.names path)

/-- The content of the file at a path. -/
def read (tree : FileTree) (path : String) : Option String :=
  (tree.locate path).bind tree.content?

/-- Is there a file or a directory at a path? -/
def contains (tree : FileTree) (path : String) : Bool :=
  match tree.locate path with
  | some location => tree.isFile location || tree.isDirectory location
  | none => false

/-- Writes a file in a directory that is there. -/
def write (tree : FileTree) (path content : String) : Option FileTree := do
  let location ← tree.locate path
  if tree.isDirectory location then none
  else
    let others := tree.files.filter fun file => file.1 != location
    return { tree with files := (location, content) :: others }

/-- Makes the directories that several steps lead through. -/
def makeAll (tree : FileTree) (directory : Location) : List String → Option FileTree
  | [] => some tree
  | name :: rest => do
    let next ← step directory name
    if tree.isDirectory next then makeAll tree next rest
    else if tree.isFile next then none
    else makeAll { tree with directories := next :: tree.directories } next rest

/-- Makes the directories on the way of a path. -/
def makeDirectories (tree : FileTree) (path : String) : Option FileTree :=
  if FilePath.isAbsolute path then none else tree.makeAll [] (FilePath.names path)

/-- Writes a file, with the directories on the way to it. -/
def plant (tree : FileTree) (path content : String) : Option FileTree := do
  let tree ← match FilePath.parent? path with
    | some parent => tree.makeDirectories parent
    | none => some tree
  tree.write path content

end FileTree

/-- The surroundings of a run in memory. -/
structure Memory where
  /-- The files. -/
  tree : FileTree := {}
  /-- The lines of the standard output. -/
  output : List String := []
  /-- The lines of the error output. -/
  errors : List String := []
  /-- The events. -/
  events : List Event := []
  deriving Repr, DecidableEq

namespace Memory

/-- Changes the files, if that is possible. -/
def change (f : FileTree → Option FileTree) : StateM Memory Bool := do
  let memory ← get
  match f memory.tree with
  | some tree =>
    set { memory with tree }
    return true
  | none => return false

/-- The operations of a run in memory. -/
def system : System (StateM Memory) where
  read path := do return (← get).tree.read path
  exists? path := do return (← get).tree.contains path
  makeDirectories path := change fun tree => tree.makeDirectories path
  write path content := change fun tree => tree.write path content
  print line := modify fun memory => { memory with output := memory.output ++ [line] }
  complain line := modify fun memory => { memory with errors := memory.errors ++ [line] }
  log event := modify fun memory => { memory with events := memory.events ++ [event] }

end Memory

end TypeSchema.Command
