import CompileDriver.FileTree.Change
import CompileDriver.Program.ExitStatus
import CompileDriver.Stream

/-!
# Running programs

A program is started with arguments, an environment, an input and a current
directory.  From the outside its run is what it wrote to its two streams, in
order, what it made of the file tree and how it ended.  `Launcher` is the type
of all such behaviours; a launcher also decides which programs cannot be
started.
-/

namespace CompileDriver

/-- How a program is started. -/
structure Invocation where
  /-- The path or the name of the program. -/
  program : Path
  /-- The name that the program is told to have. -/
  name : Bytes
  arguments : List Bytes
  /-- The environment variables that matter, with their values. -/
  environment : List (Bytes × Bytes)
  /-- The current directory. -/
  directory : Place
  /-- What the program can read from its standard input. -/
  input : Bytes := []
  /-- The streams that the program finds closed. -/
  closed : List Stream := []
  deriving Repr, DecidableEq

namespace Invocation

/-- The texts that the program receives: its name, its arguments and its
environment, where a name and its value are joined by an equals sign. -/
def texts (invocation : Invocation) : List Bytes :=
  invocation.name :: invocation.arguments ++
    invocation.environment.map fun (name, value) => name ++ 0x3D :: value

/-- A program receives its texts with a zero byte behind each, so none of them
may hold one, and neither may its path. -/
def check (invocation : Invocation) : Except OsError Unit :=
  if (invocation.program :: invocation.texts).any (·.contains 0) then
    .error (.text "nul byte found in provided data")
  else .ok ()

/-- The longest text that a program can receive, in bytes. -/
def longestText : Nat := 131071

/-- The memory that the texts of a program may take, in bytes. -/
def textSpace : Nat := 2097152

/-- The memory that a list of texts takes, in bytes: every text with a zero byte
and a reference. -/
def spaceFor (texts : List Bytes) : Nat :=
  texts.foldl (fun space text => space + text.length + 9) 0

/-- Whether the texts of a program are too long for the system. -/
def isTooLong (invocation : Invocation) : Bool :=
  invocation.texts.any (longestText < ·.length) ||
    textSpace < invocation.program.length + 1 + spaceFor invocation.texts

end Invocation

/-- A write of a program to one of its streams. -/
structure Written where
  stream : Stream
  bytes : Bytes
  /-- When it happened, in microseconds after the start of the program. -/
  moment : Nat := 0
  deriving Repr, DecidableEq

/-- What a run of a program did. -/
structure Execution where
  /-- The writes to the two streams, in order.  Some can come from programs that
  go on after the one that started them. -/
  output : List Written
  /-- The file tree that the program left. -/
  files : FileTree
  status : ExitStatus
  /-- What the program has left of its input. -/
  unread : Bytes := []
  /-- How long the program ran, in microseconds. -/
  duration : Nat := 0

namespace Execution

/-- Everything that was written to a stream. -/
def written (execution : Execution) (stream : Stream) : Bytes :=
  execution.output.flatMap fun write => if write.stream = stream then write.bytes else []

end Execution

/-- The behaviour of all programs: whether an invocation can be started, and
what its run does to a file tree. -/
abbrev Launcher := Invocation → FileTree → Except OsError Execution

end CompileDriver
