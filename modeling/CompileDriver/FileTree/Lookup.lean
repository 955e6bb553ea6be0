import CompileDriver.FileTree.Basic
import CompileDriver.OsError

/-!
# Following paths

A path is followed segment by segment from the root or from a current
directory.  Symbolic links on the way are expanded, at most forty of them.  A
path that ends in a slash means a directory; a link in last position is then
followed in any case, otherwise only when asked for.

The outcome tells an existing entry from a missing one whose directory exists,
because the latter is where a file can be created.  Whoever wants to create a
file is turned away by a trailing slash before the last name is looked at.
-/

namespace CompileDriver.FileTree

/-- Where a path leads. -/
inductive Target
  /-- To an entry. -/
  | found (place : Place) (node : Node)
  /-- To a name that is not taken, in an existing directory. -/
  | missing (parent : Place) (name : Name)

/-- What a path is followed for. -/
inductive Purpose
  /-- To use the entry that it leads to. -/
  | use
  /-- To use the entry that it names, even when that is a link. -/
  | useLink
  /-- To open a file, which is created when nothing stands there. -/
  | create
  deriving Repr, DecidableEq

/-- The longest name of an entry, in bytes. -/
def longestName : Nat := 255

/-- The longest path that the system takes, in bytes. -/
def longestPath : Nat := 4095

/-- How many symbolic links are followed on the way to an entry. -/
def linkBudget : Nat := 40

/-- The segments of a path. -/
def segments (path : Path) : List Name :=
  (Bytes.splitAt Bytes.slash path).filter (· ≠ [])

/-- Whether a path ends in a slash. -/
def endsInSlash (path : Path) : Bool :=
  path.getLast? = some Bytes.slash

/-- How far segments lead without expanding a link. -/
inductive Walk
  /-- To the end. -/
  | done (target : Target)
  /-- To a link that has to be expanded, in the directory at `place`, with the
  segments behind it. -/
  | link (place : Place) (target : Path) (rest : List Name)

/-- Walk the segments of a path from the directory at `place` up to the first
link that has to be expanded.  `asDirectory` tells whether the path ends in a
slash. -/
def walk (tree : FileTree) (purpose : Purpose) (asDirectory : Bool) (place : Place) :
    List Name → Except OsError Walk
  | [] => .ok (.done (.found place ((tree.get? place).getD Node.openDirectory)))
  | segment :: rest =>
      if segment = [Bytes.dot] then walk tree purpose asDirectory place rest
      else if segment = [Bytes.dot, Bytes.dot] then
        walk tree purpose asDirectory place.dropLast rest
      else if rest = [] && asDirectory && purpose = .create then .error .isDirectory
      else if segment.length > longestName then .error .nameTooLong
      else match tree.get? (place ++ [segment]) with
        | none =>
            if rest = [] then .ok (.done (.missing place segment)) else .error .notFound
        | some (.directory _ _) => walk tree purpose asDirectory (place ++ [segment]) rest
        | some (.link target) =>
            if rest = [] && purpose = .useLink && !asDirectory then
              .ok (.done (.found (place ++ [segment]) (.link target)))
            else .ok (.link place target rest)
        | some node =>
            if rest = [] && !asDirectory then .ok (.done (.found (place ++ [segment]) node))
            else .error .notDirectory

/-- Follow the segments of a path from the directory at `place`, expanding at
most `budget` links. -/
def follow (tree : FileTree) (purpose : Purpose) (asDirectory : Bool) :
    Nat → Place → List Name → Except OsError Target
  | budget, place, names =>
      match walk tree purpose asDirectory place names with
      | .error error => .error error
      | .ok (.done target) => .ok target
      | .ok (.link place target rest) =>
          match budget with
          | 0 => .error .tooManyLinks
          | budget + 1 =>
              follow tree purpose (asDirectory || (rest = [] && endsInSlash target)) budget
                (if Path.isAbsolute target then [] else place) (segments target ++ rest)

/-- A path is neither empty nor does it hold a zero byte. -/
def checkText (path : Path) : Except OsError Unit :=
  if path.contains 0 then .error (.text "file name contained an unexpected NUL byte")
  else if path = [] then .error .notFound
  else .ok ()

/-- A path that is handed to the system is not too long either. -/
def checkPath (path : Path) : Except OsError Unit :=
  match checkText path with
  | .error error => .error error
  | .ok () => if longestPath < path.length then .error .nameTooLong else .ok ()

/-- Follow `path` from the current directory at `current`, whatever its
length. -/
def lookupUnbounded (tree : FileTree) (current : Place) (path : Path) (purpose : Purpose) :
    Except OsError Target :=
  follow tree purpose (endsInSlash path) linkBudget
    (if Path.isAbsolute path then [] else current) (segments path)

/-- Follow `path` from the current directory at `current`. -/
def lookup (tree : FileTree) (current : Place) (path : Path) (purpose : Purpose := .use) :
    Except OsError Target :=
  match checkPath path with
  | .error error => .error error
  | .ok () => tree.lookupUnbounded current path purpose

/-- The entry that a path led to. -/
def Target.entry : Target → Except OsError (Place × Node)
  | .found place node => .ok (place, node)
  | .missing _ _ => .error .notFound

/-- The entry that `path` leads to. -/
def entry (tree : FileTree) (current : Place) (path : Path) (purpose : Purpose := .use) :
    Except OsError (Place × Node) :=
  match tree.lookup current path purpose with
  | .ok target => target.entry
  | .error error => .error error

/-- Whether `path` leads to an entry. -/
def exists? (tree : FileTree) (current : Place) (path : Path) : Bool :=
  match tree.entry current path with
  | .ok _ => true
  | .error _ => false

/-- Whether `path` leads to a directory. -/
def isDirectory (tree : FileTree) (current : Place) (path : Path) : Bool :=
  match tree.entry current path with
  | .ok (_, node) => node.isDirectory
  | .error _ => false

/-- Whether `path` leads to a regular file. -/
def isFile (tree : FileTree) (current : Place) (path : Path) : Bool :=
  match tree.entry current path with
  | .ok (_, node) => node.isFile
  | .error _ => false

/-- The content of the file that `path` leads to. -/
def read (tree : FileTree) (current : Place) (path : Path) : Except OsError Bytes :=
  match tree.entry current path with
  | .error error => .error error
  | .ok (_, .file content _) => .ok content
  | .ok (_, .directory _ _) => .error .isDirectory
  | .ok (_, _) => .ok []

/-- The place that `path` leads to, with every link on the way resolved.  It is
resolved step by step, so its length does not matter; a relative path needs the
current directory to exist. -/
def canonical (tree : FileTree) (current : Place) (path : Path) : Except OsError Place :=
  match checkText path with
  | .error error => .error error
  | .ok () =>
      if !Path.isAbsolute path && !tree.hasDirectory current then .error .notFound
      else match tree.lookupUnbounded current path .use with
        | .ok target => target.entry.map Prod.fst
        | .error error => .error error

end CompileDriver.FileTree
