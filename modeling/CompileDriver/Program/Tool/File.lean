import CompileDriver.Program.Process
import CompileDriver.Shell.Arithmetic

/-!
# Programs that work on files

Programs that copy, move, link, make, list and remove files and change their
permissions.
-/

namespace CompileDriver.Program.Tool

open CompileDriver.Shell (ofBytes)

/-- The path of a file with the name of `source` in the directory at `target`,
when that is a directory; otherwise the target itself. -/
def inside (files : FileTree) (directory : Place) (source target : Path) : Path :=
  if files.isDirectory directory target then
    Path.join target ((Path.fileName source).getD source)
  else target

/-- Do something for every source and the path that it has at a target.  Several
sources need a directory. -/
def forSources (operands : List Bytes) (isFile : Bool) (work : Path → Path → Step Bool) :
    Step Nat := do
  let process ← get
  match operands with
  | [] => misused (Bytes.ofText "missing file operand")
  | [only] => misused (Bytes.ofText "missing destination file operand after " ++ quoted only)
  | first :: _ =>
      let target := operands.getLastD []
      let sources := operands.dropLast
      if sources.length > 1 && !process.files.isDirectory process.directory target then
        let why :=
          match process.files.entry process.directory target with
          | .error error => error
          | .ok _ => .notDirectory
        complain (Bytes.ofText "target " ++ quoted target ++ Bytes.ofText ": " ++ reason why)
        return 1
      else
        let place (source : Path) : Path :=
          if isFile then target else inside process.files process.directory source target
        forAll (if sources = [] then [first] else sources) fun source =>
          work source (place source)

/-- Whether two paths lead to the same entry. -/
def isSame (files : FileTree) (directory : Place) (first second : Path) : Bool :=
  match files.entry directory first, files.entry directory second with
  | .ok (place, _), .ok (other, _) => place = other
  | _, _ => false

/-- The complaint about two paths of one entry. -/
def sameFile (source target : Path) : Step Bool := do
  complain (quoted source ++ Bytes.ofText " and " ++ quoted target ++
    Bytes.ofText " are the same file")
  return false

/-- Put a copy of everything at and below one place at another one. -/
def copyTree (files : FileTree) (source target : Place) : FileTree :=
  (files.entries.filter fun entry => source.isPrefixOf entry.1).foldl
    (fun files (place, node) => files.insert (target ++ place.drop source.length) node) files

/-- Write a content to a path.  A file that exists keeps its permission; a link
that leads nowhere is not followed. -/
def overwrite (target : Path) (content : Bytes) (executable : Bool) : Step Bool := do
  let process ← get
  match process.files.entry process.directory target .useLink,
      process.files.exists? process.directory target with
  | .ok (_, .link _), false =>
      complain (Bytes.ofText "not writing through dangling symlink " ++ quoted target)
      return false
  | _, _ =>
      change (process.files.write process.directory target content executable)
        (Bytes.ofText "cannot create regular file " ++ quoted target)

/-- The complaint about a directory that should take the place of something
else. -/
def notOverwriting (source target : Path) : Step Bool := do
  complain (Bytes.ofText "cannot overwrite non-directory " ++ quoted target ++
    Bytes.ofText " with directory " ++ quoted source)
  return false

/-- Copy one file or directory. -/
def copyOne (request : Request) (source target : Path) : Step Bool := do
  let process ← get
  let recursive := request.has 'r' || request.has 'R' || request.has 'a'
  if isSame process.files process.directory source target then return ← sameFile source target
  match process.files.entry process.directory source with
  | .error error =>
      complain (Bytes.ofText "cannot stat " ++ quoted source ++ Bytes.ofText ": " ++ reason error)
      return false
  | .ok (origin, .directory _ _) =>
      if !recursive then
        complain (Bytes.ofText "-r not specified; omitting directory " ++ quoted source)
        return false
      match process.files.lookup process.directory (FileTree.withoutTrailingSlashes target) with
      | .ok (.missing parent name) =>
          change (.ok (copyTree process.files origin (parent ++ [name]))) []
      | .ok (.found place node) =>
          if node.isDirectory then change (.ok (copyTree process.files origin place)) []
          else notOverwriting source target
      | .error error =>
          change (.error error) (Bytes.ofText "cannot create directory " ++ quoted target)
  | .ok (_, .file content executable) => overwrite target content executable
  | .ok (_, _) => overwrite target [] false

/-- Copy files to a path or into a directory. -/
def copy : Tool := fun arguments =>
  OptionTable.handle
    { plain := ['r', 'R', 'a', 'p', 'f', 'n', 'i', 'v', 'L', 'P', 'd', 'T', 'u']
      long := [("recursive", 'r'), ("force", 'f'), ("preserve", 'p'), ("archive", 'a')] }
    arguments fun request =>
      forSources request.operands (request.has 'T') (copyOne request)

/-- Move one file or directory. -/
def moveOne (source target : Path) : Step Bool := do
  let process ← get
  if isSame process.files process.directory source target then return ← sameFile source target
  match process.files.entry process.directory source .useLink with
  | .error error =>
      complain (Bytes.ofText "cannot stat " ++ quoted source ++ Bytes.ofText ": " ++ reason error)
      return false
  | .ok (_, node) =>
      let isOther := match process.files.entry process.directory target with
        | .ok (_, other) => !other.isDirectory
        | .error _ => false
      if node.isDirectory && isOther then return ← notOverwriting source target
      change (process.files.rename process.directory source target)
        (Bytes.ofText "cannot move " ++ quoted source ++ Bytes.ofText " to " ++ quoted target)

/-- Move files to a path or into a directory. -/
def move : Tool := fun arguments =>
  OptionTable.handle { plain := ['f', 'n', 'i', 'v', 'T', 'u'], long := [("force", 'f')] } arguments
    fun request => forSources request.operands (request.has 'T') moveOne

/-- Make links to a target. -/
def link : Tool := fun arguments =>
  OptionTable.handle
    { plain := ['s', 'f', 'n', 'v', 'T'], long := [("symbolic", 's'), ("force", 'f')] } arguments
    fun request => do
      let operands := match request.operands with
        | [only] => [only, [Bytes.dot]]
        | operands => operands
      forSources operands (request.has 'T') fun source target => do
        let process ← get
        let files :=
          if request.has 'f' then
            (process.files.unlink process.directory target).toOption.getD process.files
          else process.files
        if request.has 's' then
          change (files.create process.directory target (.link source))
            (Bytes.ofText "failed to create symbolic link " ++ quoted target)
        else
          match files.entry process.directory source with
          | .error error =>
              complain (Bytes.ofText "failed to access " ++ quoted source ++ Bytes.ofText ": " ++
                reason error)
              return false
          | .ok (_, .directory _ _) =>
              complain (quotedIfNeeded source ++ Bytes.ofText ": hard link not allowed for directory")
              return false
          | .ok (_, node) =>
              change (files.create process.directory target node)
                (Bytes.ofText "failed to create hard link " ++ quoted target)

/-- The part of a path up to the first directory that cannot be made or
entered. -/
def failingPart (files : FileTree) (directory : Place) (path : Path) : Path :=
  let lengths := (List.range (path.length + 1)).filter fun length =>
    length > 0 && (path[length]? = some Bytes.slash || length = path.length)
  match lengths.find? fun length =>
      (files.makePath directory (path.take length)).toOption.isNone with
  | some length => path.take length
  | none => path

/-- Make directories. -/
def makeDirectory : Tool := fun arguments =>
  OptionTable.handle { plain := ['p', 'v'], valued := ['m'], long := [("parents", 'p')] } arguments
    fun request => do
      if request.operands = [] then return ← misused (Bytes.ofText "missing operand")
      forAll request.operands fun path => do
        let process ← get
        change
          (if request.has 'p' then process.files.makePath process.directory path
            else process.files.makeDirectory process.directory path)
          (Bytes.ofText "cannot create directory " ++ quoted
            (if request.has 'p' then failingPart process.files process.directory path else path))

/-- Remove empty directories. -/
def removeDirectory : Tool := fun arguments =>
  OptionTable.handle { plain := ['p', 'v'] } arguments fun request => do
    if request.operands = [] then return ← misused (Bytes.ofText "missing operand")
    forAll request.operands fun path => do
      let process ← get
      change (process.files.removeDirectory process.directory path)
        (Bytes.ofText "failed to remove " ++ quoted path)

/-- Whether the last segment of a path means a directory by its position. -/
def endsInDots (path : Path) : Bool :=
  let name := ((FileTree.withoutTrailingSlashes path).reverse.takeWhile (· ≠ Bytes.slash)).reverse
  name = [Bytes.dot] || name = [Bytes.dot, Bytes.dot]

/-- Remove one file or directory. -/
def removeOne (request : Request) (path : Path) : Step Bool := do
  let process ← get
  let recursive := request.has 'r' || request.has 'R'
  let cannot := Bytes.ofText "cannot remove " ++ quoted path
  if recursive && endsInDots path then
    complain (Bytes.ofText "refusing to remove '.' or '..' directory: skipping " ++ quoted path)
    return false
  match process.files.entry process.directory path .useLink with
  | .error error =>
      if request.has 'f' && (error = .notFound || error = .notDirectory) then return true
      change (.error error) cannot
  | .ok (place, .directory _ _) =>
      if recursive then change (.ok (process.files.eraseAll place)) cannot
      else if request.has 'd' then
        change (process.files.removeDirectory process.directory path) cannot
      else change (.error .isDirectory) cannot
  | .ok (place, _) => change (.ok (process.files.erase place)) cannot

/-- Remove files. -/
def remove : Tool := fun arguments =>
  OptionTable.handle
    { plain := ['r', 'R', 'f', 'd', 'v', 'i'], long := [("recursive", 'r'), ("force", 'f')] }
    arguments fun request => do
      if request.operands = [] && !request.has 'f' then
        return ← misused (Bytes.ofText "missing operand")
      forAll request.operands (removeOne request)

/-- Make empty files where nothing stands. -/
def touch : Tool := fun arguments =>
  OptionTable.handle { plain := ['c', 'a', 'm', 'f'], valued := ['d', 't', 'r'] } arguments
    fun request => do
      if request.operands = [] then return ← misused (Bytes.ofText "missing file operand")
      forAll request.operands fun path => do
        let process ← get
        let plain := FileTree.withoutTrailingSlashes path
        if process.files.exists? process.directory path then return true
        if plain ≠ path && process.files.exists? process.directory plain then
          return ← change (.error .notDirectory) (Bytes.ofText "setting times of " ++ quoted path)
        if request.has 'c' then return true
        change ((process.files.openForWriting process.directory path).map Prod.fst)
          (Bytes.ofText "cannot touch " ++ quoted path)

/-! ## Permissions -/

/-- What a mode makes of the permission to execute: a fixed answer, or the old
one where it says nothing about it.  Nothing for a text that is no mode. -/
def modeExecutable? (mode : Bytes) (old : Bool) : Option Bool :=
  let chars := ofBytes mode
  if !chars.isEmpty && chars.all fun c => '0' ≤ c && c ≤ '7' then
    some (((List.range 3).map fun index => Shell.Arithmetic.ofDigits 8 chars / Nat.pow 8 index % 2).any
      (· = 1))
  else
    let clauses := Bytes.splitAt 0x2C mode
    clauses.foldl
      (fun outcome clause =>
        let letters := (ofBytes clause).dropWhile ['u', 'g', 'o', 'a'].contains
        match outcome, letters with
        | some old, sign :: permissions =>
            if ! ['+', '-', '='].contains sign ||
                !permissions.all ['r', 'w', 'x', 'X', 's', 't'].contains then none
            else
              let names := permissions.contains 'x' || (permissions.contains 'X' && old)
              some (if sign = '+' then old || names else if sign = '-' then old && !names else names)
        | _, _ => none)
      (some old)

/-- Change the permission of a file. -/
def changeModeAt (mode : Bytes) (files : FileTree) (place : Place) : FileTree :=
  match files.get? place with
  | some (.file _ executable) =>
      files.setExecutable place ((modeExecutable? mode executable).getD executable)
  | _ => files

/-- Change the permissions of files. -/
def changeMode : Tool := fun arguments => do
  let isOption (argument : Bytes) : Bool :=
    [Bytes.ofText "-R", Bytes.ofText "-v", Bytes.ofText "-f", Bytes.ofText "--"].contains argument
  let isDeep := arguments.contains (Bytes.ofText "-R")
  match arguments.filter (!isOption ·) with
  | [] => misused (Bytes.ofText "missing operand")
  | [mode] => misused (Bytes.ofText "missing operand after " ++ quoted mode)
  | mode :: paths =>
      if (modeExecutable? mode false).isNone then
        return ← misused (Bytes.ofText "invalid mode: " ++ quoted mode)
      forAll paths fun path => do
        let process ← get
        match process.files.entry process.directory path with
        | .error error => change (.error error) (Bytes.ofText "cannot access " ++ quoted path)
        | .ok (place, _) =>
            let places := place ::
              (if isDeep then (process.files.below place).map Prod.fst else [])
            change (.ok (places.foldl (changeModeAt mode) process.files)) []

/-! ## Listing -/

/-- The names that are listed of a directory. -/
def listedNames (files : FileTree) (place : Place) (request : Request) : List Name :=
  let names := (files.children place).map fun (child, _) => child.getLastD []
  let own := if request.has 'a' then [[Bytes.dot], [Bytes.dot, Bytes.dot]] else []
  let shown := names.filter fun name =>
    request.has 'a' || request.has 'A' || name.head? ≠ some Bytes.dot
  (own ++ shown).mergeSort fun a b => a ≤ b

/-- List files and directories, one name on each line. -/
def list : Tool := fun arguments =>
  OptionTable.handle { plain := ['a', 'A', '1', 'd', 'p', 'r', 't'] } arguments (fun request => do
    let operands := if request.operands = [] then [[Bytes.dot]] else request.operands
    let process ← get
    let sorted := operands.mergeSort fun a b => a ≤ b
    let status ← forAll sorted (fun path => do
      match process.files.entry process.directory path with
      | .error error => change (.error error) (Bytes.ofText "cannot access " ++ quoted path)
      | .ok _ => return true) 2
    let isShownItself (path : Path) : Bool :=
      request.has 'd' || !process.files.isDirectory process.directory path
    let existing := sorted.filter (process.files.exists? process.directory)
    for path in existing.filter isShownItself do
      emitLine path
    for path in existing.filter (!isShownItself ·) do
      if operands.length > 1 then
        if (← get).output.any (·.stream = .stdout) then emitLine []
        emitLine (path ++ Bytes.ofText ":")
      match process.files.entry process.directory path with
      | .ok (place, _) =>
          for name in listedNames process.files place request do
            emitLine name
      | .error _ => pure ()
    return status) 2

/-- Write what links contain, or where paths lead. -/
def readLink : Tool := fun arguments =>
  OptionTable.handle { plain := ['f', 'e', 'n'] } arguments fun request => do
    if request.operands = [] then return ← misused (Bytes.ofText "missing operand")
    forAll request.operands fun path => do
      let process ← get
      if request.has 'f' || request.has 'e' then
        match process.files.lookup process.directory path with
        | .ok (.found place _) =>
            emitLine place.path
            return true
        | .ok (.missing parent name) =>
            if request.has 'e' then return false
            emitLine (Place.path (parent ++ [name]))
            return true
        | .error _ => return false
      else
        match process.files.entry process.directory path .useLink with
        | .ok (_, .link target) =>
            emitLine target
            return true
        | _ => return false

end CompileDriver.Program.Tool
