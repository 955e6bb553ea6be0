import CompileDriver.Program.Interpreter
import CompileDriver.Program.Tool
import CompileDriver.Shell.Interpreter

/-!
# Starting programs

Which file an invocation means, whether that file can be executed, and by what.
The standard shell and a few small programs run by themselves; a file that names
an interpreter is run by it.
-/

namespace CompileDriver.Program

/-! ## Programs as files -/

/-- What runs by itself. -/
inductive Image
  /-- The standard shell. -/
  | shell
  /-- The program that runs another one in a changed environment. -/
  | environment
  | tool (tool : Tool)

/-- What stands at the beginning of the file of a program with a name. -/
def imageHead (name : String) : Bytes :=
  [0x7F, 0x45, 0x4C, 0x46, 0xFF] ++ Bytes.ofText name ++ [0]

/-- The names of the programs that run by themselves. -/
def images : List (String × Image) :=
  [("dash", .shell), ("env", .environment)] ++
    Tool.all.map fun (name, tool) => (name, .tool tool)

/-- The program that a content is. -/
def image? (content : Bytes) : Option Image :=
  (images.find? fun entry => (imageHead entry.1).isPrefixOf content).map Prod.snd

/-! ## Finding what runs -/

/-- The content of the executable file that `path` leads to. -/
def executable (files : FileTree) (directory : Place) (path : Path) : Except OsError Bytes :=
  match files.entry directory path with
  | .error error => .error error
  | .ok (_, .file content true) => .ok content
  | .ok (_, _) => .error .accessDenied

/-- The content of the interpreter at a path.  An empty path means the current
directory. -/
def executableInterpreter (files : FileTree) (directory : Place) (path : Path) :
    Except OsError Bytes :=
  if path = [] then .error .accessDenied else executable files directory path

/-- How many interpreters can be named by interpreters. -/
def interpreterBudget : Nat := 5

/-- The program that runs a file with some content, and how it is invoked: an
interpreter receives its own path as its name, and its argument and the path of
the file in front of the other arguments.  At most `budget` interpreters follow
the first one. -/
def resolve (files : FileTree) : Nat → Invocation → Bytes → Except OsError (Image × Invocation)
  | budget, invocation, content =>
      match image? content, interpreter? content with
      | some image, _ => .ok (image, invocation)
      | none, none => .error .notExecutable
      | none, some interpreter =>
          match executableInterpreter files invocation.directory interpreter.path with
          | .error error => .error error
          | .ok content =>
              match budget with
              | 0 => .error .tooManyLinks
              | budget + 1 =>
                  resolve files budget
                    { invocation with
                      program := interpreter.path
                      name := interpreter.path
                      arguments :=
                        interpreter.argument.toList ++ invocation.program :: invocation.arguments }
                    content

/-- The program that an invocation of the file at its path runs.  Texts that are
too long are noticed when the file has been found. -/
def resolvePath (files : FileTree) (invocation : Invocation) : Except OsError (Image × Invocation) :=
  match executable files invocation.directory invocation.program with
  | .error error => .error error
  | .ok content =>
      if invocation.isTooLong then .error .argumentsTooLong
      else resolve files interpreterBudget invocation content

/-- The program that an invocation runs at the first of some paths where one can
be started.  Paths that lead nowhere are passed over, and so are files that
cannot be executed, but these are remembered in `error`. -/
def resolveFirst (files : FileTree) (invocation : Invocation) (error : OsError) :
    List Path → Except OsError (Image × Invocation)
  | [] => .error error
  | path :: rest =>
      match resolvePath files { invocation with program := path } with
      | .ok found => .ok found
      | .error next =>
          if next = .notFound || next = .notDirectory then
            resolveFirst files invocation error rest
          else if next = .accessDenied then resolveFirst files invocation next rest
          else .error next

/-- The list of directories in which an invocation looks programs up. -/
def searchPathOf (invocation : Invocation) : Bytes :=
  (invocation.environment.lookup (Bytes.ofText "PATH")).getD standardSearchPath

/-- The program that an invocation means: by path when its name has a slash, else
by name. -/
def resolveInvocation (files : FileTree) (invocation : Invocation) :
    Except OsError (Image × Invocation) :=
  let program := invocation.program
  if program.contains Bytes.slash then resolvePath files invocation
  else if program = [] then .error .notFound
  else if program.length > FileTree.longestName then .error .nameTooLong
  else resolveFirst files invocation .notFound (candidates (searchPathOf invocation) program)

/-! ## Running -/

/-- The assignments in front of the arguments of `env`, which change an
environment, and the arguments behind them. -/
def changeEnvironment (environment : List (Bytes × Bytes)) :
    List Bytes → List (Bytes × Bytes) × List Bytes
  | [] => (environment, [])
  | argument :: rest =>
      if argument.contains 0x3D then
        let name := argument.takeWhile (· ≠ 0x3D)
        changeEnvironment
          ((environment.filter fun entry => entry.1 ≠ name) ++ [(name, argument.drop (name.length + 1))])
          rest
      else (environment, argument :: rest)

/-- Run a program in a changed environment, or write that environment. -/
def runInEnvironment (start : Launcher) (invocation : Invocation) (files : FileTree) : Execution :=
  let isCleared := invocation.arguments.head?.any fun argument =>
    argument = Bytes.ofText "-i" || argument = Bytes.ofText "-"
  let (environment, rest) :=
    changeEnvironment (if isCleared then [] else invocation.environment)
      (if isCleared then invocation.arguments.drop 1 else invocation.arguments)
  let changed := { invocation with environment, arguments := rest.drop 1 }
  match rest with
  | [] => Tool.execute Tool.printEnvironment { changed with arguments := [] } files
  | program :: _ =>
      match start { changed with program, name := program } files with
      | .ok execution => execution
      | .error error =>
          let refuse : Tool := fun _ => do
            complain (quoted program ++ Bytes.ofText ": " ++ reason error)
            return if error = .notFound then 127 else 126
          refuse.execute invocation files

/-- Run a program. -/
def Image.run (start : Launcher) (image : Image) : Invocation → FileTree → Execution :=
  match image with
  | .shell => Shell.runShell start
  | .environment => runInEnvironment start
  | .tool program => program.execute

/-- Start a program.  Programs that start programs are followed at most `depth`
levels deep. -/
def launch : Nat → Launcher
  | 0, _, _ => .error .unavailable
  | depth + 1, invocation, files =>
      match resolveInvocation files invocation with
      | .error error => .error error
      | .ok (image, invocation) => .ok (image.run (launch depth) invocation files)

/-- The standard launcher. -/
def standard : Launcher :=
  launch 32

/-! ## What exists on every system -/

/-- The directories and devices of every system. -/
def standardDirectories : FileTree :=
  let directories := ["/usr", "/usr/bin", "/dev", "/tmp"].foldl
    (fun (tree : FileTree) path => tree.insert (Place.ofText path) Node.openDirectory) {}
  let devices := (directories.insert (Place.ofText "/dev/null") .nullDevice).insert
    (Place.ofText "/dev/zero") .zeroDevice
  devices.insert (Place.ofText "/bin") (.link (Bytes.ofText "usr/bin"))

/-- What exists on every system: the standard shell and the small programs, the
devices and the directory for temporary files. -/
def standardFiles : FileTree :=
  let withPrograms := images.foldl
    (fun (tree : FileTree) (name, _) =>
      tree.insert (Place.ofText ("/usr/bin/" ++ name)) (.file (imageHead name) true))
    standardDirectories
  withPrograms.insert (Place.ofText "/usr/bin/sh") (.link (Bytes.ofText "dash"))

end CompileDriver.Program
