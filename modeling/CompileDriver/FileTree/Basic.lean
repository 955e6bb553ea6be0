import CompileDriver.Path

/-!
# File trees

A file tree lists what exists and where.  A place is the list of names from the
root down to an entry; the root itself always exists and is a directory.  The
tree is a list of places with what stands there, in the order of creation, and
the operations of this module act on places only.  Following a path to a place
is the subject of the look-up module.
-/

namespace CompileDriver

/-- The name of an entry within its directory. -/
abbrev Name := Bytes

/-- The names from the root down to an entry. -/
abbrev Place := List Name

/-- The path of a place. -/
def Place.path (place : Place) : Path :=
  if place = [] then [Bytes.slash]
  else place.flatMap fun name => Bytes.slash :: name

/-- The place of an absolute path without `.` and `..` segments. -/
def Place.ofText (text : String) : Place :=
  (Bytes.splitAt Bytes.slash (Bytes.ofText text)).filter (· ≠ [])

/-- What stands at a place. -/
inductive Node
  /-- A regular file with its content and whether it may be executed. -/
  | file (content : Bytes) (executable : Bool)
  /-- A directory, whether its names can be listed and whether they can be
  removed. -/
  | directory (readable : Bool) (writable : Bool)
  /-- A symbolic link. -/
  | link (target : Path)
  /-- A named pipe. -/
  | fifo
  /-- A device that discards what is written to it and is empty when read. -/
  | nullDevice
  /-- A device that discards what is written to it and reads as endless zero
  bytes. -/
  | zeroDevice
  deriving Repr, DecidableEq

namespace Node

/-- A directory without restrictions. -/
def openDirectory : Node := .directory true true

/-- Whether the node is a directory. -/
def isDirectory : Node → Bool
  | .directory _ _ => true
  | _ => false

/-- Whether the node is a regular file. -/
def isFile : Node → Bool
  | .file _ _ => true
  | _ => false

end Node

/-- What exists, in the order of creation. -/
structure FileTree where
  entries : List (Place × Node) := []
  deriving Repr

namespace FileTree

/-- What stands at a place. -/
def get? (tree : FileTree) (place : Place) : Option Node :=
  if place = [] then some Node.openDirectory else tree.entries.lookup place

/-- Put a node at a place, in place of whatever stands there. -/
def insert (tree : FileTree) (place : Place) (node : Node) : FileTree :=
  if (tree.entries.lookup place).isSome then
    { entries := tree.entries.map fun entry => if entry.1 = place then (place, node) else entry }
  else
    { entries := tree.entries ++ [(place, node)] }

/-- Remove what stands at a place. -/
def erase (tree : FileTree) (place : Place) : FileTree :=
  { entries := tree.entries.filter fun entry => entry.1 ≠ place }

/-- Remove what stands at a place and everything below it. -/
def eraseAll (tree : FileTree) (place : Place) : FileTree :=
  { entries := tree.entries.filter fun entry => !place.isPrefixOf entry.1 }

/-- The entries directly inside the directory at a place. -/
def children (tree : FileTree) (place : Place) : List (Place × Node) :=
  tree.entries.filter fun entry => entry.1 ≠ [] && entry.1.dropLast = place

/-- The entries below a place, the place itself left out. -/
def below (tree : FileTree) (place : Place) : List (Place × Node) :=
  tree.entries.filter fun entry => place.isPrefixOf entry.1 && entry.1 ≠ place

/-- Whether a directory stands at a place. -/
def hasDirectory (tree : FileTree) (place : Place) : Bool :=
  (tree.get? place).any Node.isDirectory

/-- Make directories at a place and at all places above it, where nothing
stands yet. -/
def makeDirectories (tree : FileTree) (place : Place) : FileTree :=
  (List.range place.length).foldl
    (fun tree depth =>
      let here := place.take (depth + 1)
      if (tree.get? here).isSome then tree else tree.insert here Node.openDirectory)
    tree

end FileTree

end CompileDriver
