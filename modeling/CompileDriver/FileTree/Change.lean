import CompileDriver.FileTree.Lookup

/-!
# Changing a file tree

What can be done to the entry that a path leads to: writing and copying files,
making directories and links, renaming and removing.  An operation that fails
leaves the tree as it was.
-/

namespace CompileDriver.FileTree

/-- Open `path` for writing, creating a regular file where nothing stands yet:
the tree with the file, and its place.  Nothing is created in a directory that
is gone. -/
def openForWriting (tree : FileTree) (current : Place) (path : Path) (executable : Bool := false) :
    Except OsError (FileTree × Place) :=
  match tree.lookup current path .create with
  | .error error => .error error
  | .ok (.found place node) =>
      if node.isDirectory then .error .isDirectory else .ok (tree, place)
  | .ok (.missing parent name) =>
      if tree.hasDirectory parent then
        .ok (tree.insert (parent ++ [name]) (.file [] executable), parent ++ [name])
      else .error .notFound

/-- Replace the content of the file at `place`.  Devices and pipes swallow
it. -/
def setContent (tree : FileTree) (place : Place) (content : Bytes) : FileTree :=
  match tree.get? place with
  | some (.file _ executable) => tree.insert place (.file content executable)
  | _ => tree

/-- Add to the content of the file at `place`.  Devices and pipes swallow
it. -/
def append (tree : FileTree) (place : Place) (bytes : Bytes) : FileTree :=
  match tree.get? place with
  | some (.file content executable) => tree.insert place (.file (content ++ bytes) executable)
  | _ => tree

/-- Set whether the file at `place` can be executed.  Other entries have no such
permission. -/
def setExecutable (tree : FileTree) (place : Place) (executable : Bool) : FileTree :=
  match tree.get? place with
  | some (.file content _) => tree.insert place (.file content executable)
  | _ => tree

/-- Write a whole file, which keeps its permission when it already exists. -/
def write (tree : FileTree) (current : Place) (path : Path) (content : Bytes)
    (executable : Bool := false) : Except OsError FileTree :=
  match tree.openForWriting current path executable with
  | .error error => .error error
  | .ok (tree, place) => .ok (tree.setContent place content)

/-- The content of the regular file at `place`. -/
def contentAt (tree : FileTree) (place : Place) : Bytes :=
  match tree.get? place with
  | some (.file content _) => content
  | _ => []

/-- Copy the content and the permission of the file at `source` to `target`.
The target is emptied before the source is read, so a file that is copied to
itself ends up empty. -/
def copy (tree : FileTree) (current : Place) (source target : Path) : Except OsError FileTree :=
  match tree.entry current source with
  | .error error => .error error
  | .ok (origin, .file _ executable) =>
      match tree.openForWriting current target executable with
      | .error error => .error error
      | .ok (tree, place) =>
          let emptied := tree.setContent place []
          .ok ((emptied.setContent place (emptied.contentAt origin)).setExecutable place executable)
  | .ok (_, _) =>
      .error (.text "the source path is neither a regular file nor a symlink to a regular file")

/-- A path without the slashes at its end, as long as something else is left. -/
def withoutTrailingSlashes (path : Path) : Path :=
  match (path.reverse.dropWhile (· = Bytes.slash)).reverse with
  | [] => path
  | trimmed => trimmed

/-- Put a node at the name that `path` gives to a new entry. -/
def create (tree : FileTree) (current : Place) (path : Path) (node : Node) :
    Except OsError FileTree :=
  match tree.lookup current path .useLink with
  | .error error => .error error
  | .ok (.found _ _) => .error .alreadyExists
  | .ok (.missing parent name) =>
      if tree.hasDirectory parent then .ok (tree.insert (parent ++ [name]) node)
      else .error .notFound

/-- Make a directory. -/
def makeDirectory (tree : FileTree) (current : Place) (path : Path) : Except OsError FileTree :=
  tree.create current (withoutTrailingSlashes path) Node.openDirectory

/-- Make a directory for each of the names, one inside the other, from the
directory at `place` on.  Directories that exist are used. -/
def makeChain (tree : FileTree) (place : Place) : List Name → Except OsError FileTree
  | [] => .ok tree
  | name :: rest =>
      match tree.entry place name with
      | .ok (next, .directory _ _) => makeChain tree next rest
      | .ok (_, _) => .error (if rest = [] then .alreadyExists else .notDirectory)
      | .error _ =>
          match tree.makeDirectory place name with
          | .error error => .error error
          | .ok tree => makeChain tree (place ++ [name]) rest

/-- Make the directory that `path` leads to and every missing one on the
way. -/
def makePath (tree : FileTree) (current : Place) (path : Path) : Except OsError FileTree :=
  match checkPath path with
  | .error error => .error error
  | .ok () => tree.makeChain (if Path.isAbsolute path then [] else current) (segments path)

/-- Remove the entry that `path` names, which is no directory. -/
def unlink (tree : FileTree) (current : Place) (path : Path) : Except OsError FileTree :=
  match tree.entry current path .useLink with
  | .error error => .error error
  | .ok (_, .directory _ _) => .error .isDirectory
  | .ok (place, _) => .ok (tree.erase place)

/-- Remove the empty directory that `path` names. -/
def removeDirectory (tree : FileTree) (current : Place) (path : Path) : Except OsError FileTree :=
  match tree.entry current path .useLink with
  | .error error => .error error
  | .ok (place, .directory _ _) =>
      if tree.children place = [] then .ok (tree.erase place) else .error .notEmpty
  | .ok (_, _) => .error .notDirectory

/-- Move everything at and below one place to another one. -/
def relocate (tree : FileTree) (source target : Place) : FileTree :=
  { entries :=
      tree.entries.map fun (place, node) =>
        if source.isPrefixOf place then (target ++ place.drop source.length, node)
        else (place, node) }

/-- Rename the entry that `source` names to `target`, in place of a file that
stands there. -/
def rename (tree : FileTree) (current : Place) (source target : Path) : Except OsError FileTree :=
  match tree.entry current source .useLink with
  | .error error => .error error
  | .ok (origin, node) =>
      match tree.lookup current (withoutTrailingSlashes target) .useLink with
      | .error error => .error error
      | .ok (.missing parent name) =>
          if !tree.hasDirectory parent then .error .notFound
          else if origin.isPrefixOf parent then .error .invalid
          else .ok (tree.relocate origin (parent ++ [name]))
      | .ok (.found place other) =>
          if place = origin then .ok tree
          else if other.isDirectory then
            if !node.isDirectory then .error .isDirectory
            else if tree.children place ≠ [] then .error .notEmpty
            else .ok ((tree.erase place).relocate origin place)
          else if node.isDirectory then .error .notDirectory
          else .ok ((tree.erase place).relocate origin place)

end CompileDriver.FileTree
