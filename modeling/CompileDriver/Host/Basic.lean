import CompileDriver.Host.Descriptor
import CompileDriver.Duration
import CompileDriver.Host.Drain
import CompileDriver.FileTree.Change
import CompileDriver.Log
import CompileDriver.Program.Execution
import CompileDriver.Toolchain.Call
import CompileDriver.Toolchain.Error

/-!
# The process and its surroundings

A `Host` is everything that a request can observe or change: the descriptor
table, the pipes with the bytes queued in them, the threads that read from
pipes, the bytes that reached the initial targets of the standard streams, the
file tree, the environment and the state of the log.

Reader threads run beside the process.  After every system call of the process
they get a round of moves; `schedule` lists these rounds, and once it is used up
the readers take everything they can.  What holds for every schedule holds for
every interleaving.

Everything that happens is noted in a journal, so that statements about moments
in the middle of an operation are statements about the journal.
-/

namespace CompileDriver

/-- What a reader thread does when it gets to run. -/
inductive ReaderMove
  /-- It reads at most so many bytes. -/
  | read (atMost : Nat)
  /-- Its attempt finds nothing to read yet. -/
  | wouldBlock
  /-- Its attempt is interrupted. -/
  | interrupted
  /-- Its attempt fails for good. -/
  | fail (error : OsError)
  deriving Repr, DecidableEq

/-- The moves that reader threads make between two system calls of the
process, each with the number of its thread. -/
abbrev Round := List (Nat × ReaderMove)

/-- The environment variables that matter. -/
structure Environment where
  /-- The installation of the toolchain. -/
  codonPath : Option Bytes := none
  /-- The directory in which plugins are looked up. -/
  pluginPath : Option Bytes := none
  deriving Repr, DecidableEq

/-- What happens when a toolchain panics. -/
inductive PanicHook
  /-- The stack is unwound. -/
  | unwind
  /-- A crash report is written and the process exits. -/
  | crashReport
  deriving Repr, DecidableEq

/-- Something that happened. -/
inductive Event
  /-- A system call of the process that may change the descriptor table. -/
  | systemCall
  /-- The start of a call on a session. -/
  | sessionCall (call : SessionCall)
  /-- The return from a call on a session, with the error that it reports. -/
  | sessionReturn (call : SessionCall) (failure : Option ToolchainError)
  /-- The emission of an enabled log record. -/
  | logRecord (level : Level) (message : String)
  /-- Bytes that the open file of a number has taken. -/
  | delivered (number : Nat) (bytes : Bytes)
  /-- The start of a program. -/
  | launched (invocation : Invocation)
  /-- The start of a copy of a file. -/
  | copied (source target : Path)
  deriving Repr, DecidableEq

/-- A moment: something that happened, and the table at that time. -/
structure Moment where
  event : Event
  table : DescriptorTable
  deriving Repr, DecidableEq

/-- The process and its surroundings. -/
structure Host where
  /-- The open descriptors. -/
  table : DescriptorTable
  /-- New descriptors have to take a number below this one. -/
  numberLimit : Option Nat := none
  /-- The bytes queued in each pipe. -/
  pipes : List Bytes := []
  /-- How many files have been opened. -/
  openings : Nat := 0
  /-- The running and the finished reader threads that nobody has joined. -/
  readers : List Reader := []
  /-- How many reader threads have been started. -/
  threadsStarted : Nat := 0
  /-- How many threads can still be started; without a number, any. -/
  threadSupply : Option Nat := none
  /-- What the next calls that acquire something meet: an error that refuses
  them, or nothing.  Once the list is used up nothing is refused. -/
  refusals : List (Option OsError) := []
  /-- The rounds of moves that the reader threads make after each of the next
  system calls. -/
  schedule : List Round := []
  /-- What was written to standard output and is still in its line buffer. -/
  lineBuffer : Bytes := []
  /-- What reached the initial targets of the standard streams. -/
  received : PerStream Bytes := { stdout := [], stderr := [] }
  /-- Whether the process waits for something that cannot happen any more. -/
  stuck : Bool := false
  /-- What exists on the file system. -/
  files : FileTree := {}
  /-- The current directory. -/
  directory : Place := []
  /-- The directory for temporary files. -/
  temporary : Place := []
  /-- How many scratch directories have been made. -/
  scratchesMade : Nat := 0
  /-- The directory that holds the running executable. -/
  executableDirectory : Place := []
  environment : Environment := {}
  /-- The least severe level that is logged. -/
  threshold : Threshold := some .warn
  /-- The logger of the process, once there is one. -/
  logger : Option Logger := none
  /-- The contents of the output buffers in memory. -/
  buffers : List Bytes := []
  /-- What the next measurements of elapsed time will show; zero when there is
  no entry left. -/
  measurements : List Duration := []
  panicHook : PanicHook := .unwind
  /-- Whether some thread has begun to write a crash report. -/
  crashReported : Bool := false
  /-- What has happened, the last moment first. -/
  journal : List Moment := []

/-- An operation of the process. -/
abbrev Action := StateM Host

namespace Host

/-- The bytes queued in a pipe. -/
def queue (host : Host) (pipe : Nat) : Bytes :=
  host.pipes.getD pipe []

/-- Replace the bytes queued in a pipe. -/
def setQueue (host : Host) (pipe : Nat) (bytes : Bytes) : Host :=
  { host with pipes := host.pipes.set pipe bytes }

/-- Note a moment. -/
def note (host : Host) (event : Event) : Host :=
  { host with journal := { event, table := host.table } :: host.journal }

/-- The path of the current directory, unless that directory is gone. -/
def currentDirectory (host : Host) : Except OsError Place :=
  if host.files.hasDirectory host.directory then .ok host.directory else .error .notFound

/-- The targets of the two standard streams. -/
def targets (host : Host) : PerStream (Option OpenFile) :=
  { stdout := host.table.file? Stream.stdout.number
    stderr := host.table.file? Stream.stderr.number }

end Host

end CompileDriver
