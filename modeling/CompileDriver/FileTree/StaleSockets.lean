import CompileDriver.FileTree.Lookup

/-!
# Stale sockets

Runs leave regular files behind whose names begin with `sock.`.  The sweep
removes them from a directory and from everything that is reached from it
through readable directories.  Links are not followed, except that the starting
path itself may be one; an entry that cannot be removed stays and is reported.
-/

namespace CompileDriver.FileTree

/-- How the name of a stale socket begins. -/
def socketPrefix : String := "sock."

/-- Whether a name, lossily decoded, is that of a stale socket. -/
def isSocketName (name : Name) : Bool :=
  socketPrefix.toList.isPrefixOf (Utf8.lossy name).toList

/-- The regular files reached from the directory at `place` through readable
directories, at most `depth` levels down. -/
def regularFilesBelow (tree : FileTree) : Nat → Place → List Place
  | 0, _ => []
  | depth + 1, place =>
      match tree.get? place with
      | some (.directory true _) =>
          (tree.children place).flatMap fun (child, node) =>
            match node with
            | .file _ _ => [child]
            | .directory _ _ => regularFilesBelow tree depth child
            | _ => []
      | _ => []

/-- The regular files that a sweep from `path` looks at, with the name that
decides about each: the start itself when it is one, else those below it.  No
directory is nested deeper than there are entries. -/
def sweepCandidates (tree : FileTree) (current : Place) (path : Path) : List (Place × Name) :=
  match tree.entry current path .useLink with
  | .error _ => []
  | .ok (place, .file _ _) => [(place, (Path.fileName path).getD path)]
  | .ok (_, .directory _ _) | .ok (_, .link _) =>
      match tree.entry current path with
      | .ok (place, .directory _ _) =>
          (regularFilesBelow tree (tree.entries.length + 1) place).map fun file =>
            (file, file.getLastD [])
      | _ => []
  | .ok (_, _) => []

/-- The stale sockets that a sweep from `path` finds. -/
def staleSockets (tree : FileTree) (current : Place) (path : Path) : List Place :=
  (sweepCandidates tree current path).filterMap fun (place, name) =>
    if isSocketName name then some place else none

/-- Remove the entry at `place`, which its directory has to permit. -/
def remove (tree : FileTree) (place : Place) : Except OsError FileTree :=
  match tree.get? place.dropLast with
  | some (.directory _ true) => .ok (tree.erase place)
  | _ => .error .accessDenied

/-- What a sweep did. -/
structure Sweep where
  /-- The tree without the removed files. -/
  tree : FileTree
  /-- How many files were removed. -/
  removed : Nat := 0
  /-- The files that could not be removed, and why. -/
  refused : List (Place × OsError) := []

/-- Remove one more file, or note why it stays. -/
def Sweep.visit (sweep : Sweep) (place : Place) : Sweep :=
  match sweep.tree.remove place with
  | .ok tree => { sweep with tree, removed := sweep.removed + 1 }
  | .error error => { sweep with refused := sweep.refused ++ [(place, error)] }

/-- Remove the stale sockets that are found from `path`. -/
def sweep (tree : FileTree) (current : Place) (path : Path) : Sweep :=
  (staleSockets tree current path).foldl Sweep.visit { tree }

end CompileDriver.FileTree
