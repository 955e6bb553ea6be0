import CompileDriver.Program.Execution
import CompileDriver.Shell.Grammar

/-!
# The state of a shell

A shell knows its name, its arguments, variables and functions, the file tree
and where its descriptor numbers lead.  What it writes to its streams and into
pipes is noted with the time of the write; so programs that run side by side can
be run one after the other, and their writes are put into the order of time when
somebody reads them.

A copy of a shell has descriptors and variables of its own but shares the rest
of the world with the shell that made it: the files, the pipes, the clock.
-/

namespace CompileDriver.Shell

/-- Where a descriptor of a shell leads. -/
inductive Channel
  /-- To a stream that the shell was started with. -/
  | stream (stream : Stream)
  /-- To a file, at the end of which is written. -/
  | file (place : Place)
  /-- To the writing end of a pipe. -/
  | pipe (number : Nat)
  /-- To something that is read to its end. -/
  | source (number : Nat)
  /-- To endless zero bytes. -/
  | zeros
  /-- Nowhere. -/
  | nowhere
  deriving Repr, DecidableEq

/-- A write of some process. -/
structure Write where
  moment : Nat
  process : Nat
  channel : Channel
  bytes : Bytes

/-- A variable: its value, if it is set, and whether programs receive it and
whether it can be changed. -/
structure Variable where
  value : Option Bytes
  exported : Bool := false
  fixed : Bool := false

/-- A process that was started in the background and has run: how it ended, and
when. -/
structure Job where
  process : Nat
  status : ExitStatus
  ended : Nat

/-- The options of a shell that can be switched. -/
structure Options where
  /-- A command that fails ends the shell. -/
  exitOnFailure : Bool := false
  /-- A parameter that is not set must not be used. -/
  refuseUnset : Bool := false
  /-- Commands are shown before they are run. -/
  trace : Bool := false
  /-- File names are not looked up. -/
  noNames : Bool := false
  /-- All variables that are set are exported. -/
  exportAll : Bool := false

/-- What a shell is about to leave. -/
inductive Leaving
  /-- So many loops; the last one of them may go on with its next round. -/
  | loops (count : Nat) (goOn : Bool)
  /-- A function. -/
  | function
  /-- The shell itself. -/
  | shell (status : ExitStatus)
  deriving Repr, DecidableEq

/-- The number of the process of a shell. -/
def shellProcess : Nat := 1000

/-- The state of a shell between two commands. -/
structure State where
  /-- What `$0` stands for. -/
  name : Bytes
  arguments : List Bytes := []
  bindings : List (Bytes × Variable) := []
  functions : List (Bytes × Command) := []
  options : Options := {}
  /-- The commands that are run when a signal arrives; number 0 stands for the
  end of the shell. -/
  traps : List (Nat × Bytes) := []
  /-- The status of the last command. -/
  status : Nat := 0
  /-- The status of the last script that was run for its output, since the
  command was begun. -/
  substituted : Nat := 0
  /-- The line of the command that is being run. -/
  line : Nat := 1
  /-- The command that runs the commands, for complaints about them. -/
  caller : Option Bytes := none
  files : FileTree
  directory : Place
  /-- The path that led to the current directory. -/
  path : Path
  descriptors : List (Nat × Channel)
  /-- What is left of everything that can be read to its end. -/
  sources : List Bytes := []
  /-- How many pipes have been made. -/
  pipes : Nat := 0
  /-- The writes to streams and into pipes that nobody has read, the last one
  first. -/
  writes : List Write := []
  /-- The time since the start, in microseconds. -/
  clock : Nat := 0
  /-- The number of the own process. -/
  process : Nat := shellProcess
  /-- How many copies of the shell have been made. -/
  copies : Nat := 0
  /-- The process that was started last in the background. -/
  background : Option Nat := none
  jobs : List Job := []
  /-- How many loops the shell is in. -/
  depth : Nat := 0
  /-- For every function that the shell is in, what the variables were that
  became local to it. -/
  locals : List (List (Bytes × Option Variable)) := []
  leaving : Option Leaving := none
  /-- The signals with commands of their own that have arrived. -/
  pending : List Nat := []
  /-- The signals that a copy has sent to the shell. -/
  posted : List Nat := []

namespace State

/-- The state after a command with a status. -/
def withStatus (state : State) (status : Nat) : State :=
  { state with status }

/-! ## Descriptors -/

/-- Where a number leads. -/
def channel? (state : State) (number : Nat) : Option Channel :=
  state.descriptors.lookup number

/-- Make a number lead somewhere else, or nowhere at all. -/
def setChannel (state : State) (number : Nat) (channel : Option Channel) : State :=
  { state with
    descriptors :=
      (channel.map (number, ·)).toList ++
        state.descriptors.filter fun entry => entry.1 ≠ number }

/-- Write to where a number leads; nothing is written where it leads nowhere, and
the outcome tells whether it leads to something that can be written to. -/
def writeTo (state : State) (number : Nat) (bytes : Bytes) : State × Bool :=
  match state.channel? number with
  | none | some (.source _) => (state, false)
  | some (.file place) => ({ state with files := state.files.append place bytes }, true)
  | some channel =>
      ({ state with
        writes := { moment := state.clock, process := state.process, channel, bytes } :: state.writes },
        true)

/-- Write to the standard error stream. -/
def writeError (state : State) (bytes : Bytes) : State :=
  (state.writeTo 2 bytes).1

/-- Complain about the line that is being run. -/
def complain (state : State) (text : Bytes) : State :=
  state.writeError
    (state.name ++ Bytes.ofText (": " ++ toString state.line ++ ": ") ++ text ++ [Bytes.newline])

/-- Complain about the line that is being run, in the name of the command that
runs it. -/
def report (state : State) (text : Bytes) : State :=
  state.complain
    ((state.caller.map fun caller => caller ++ Bytes.ofText ": ").getD [] ++ text)

/-- Something new to read, and its number. -/
def addSource (state : State) (content : Bytes) : State × Nat :=
  ({ state with sources := state.sources ++ [content] }, state.sources.length)

/-- How much of the endless zero bytes a program gets to see. -/
def zeroSupply : Nat := 1048576

/-- What can be read through a number. -/
def readable (state : State) (number : Nat) : Bytes :=
  match state.channel? number with
  | some (.source source) => state.sources.getD source []
  | some .zeros => List.replicate zeroSupply 0
  | _ => []

/-- Set what is left to be read through a number. -/
def setReadable (state : State) (number : Nat) (content : Bytes) : State :=
  match state.channel? number with
  | some (.source source) => { state with sources := state.sources.set source content }
  | _ => state

/-- A new pipe, and its number. -/
def makePipe (state : State) : State × Nat :=
  ({ state with pipes := state.pipes + 1 }, state.pipes)

/-- The writes to a channel in the order of time, each process keeping its own
order. -/
def writesTo (state : State) (channel : Channel) : List Write :=
  ((state.writes.filter (·.channel = channel)).reverse).mergeSort fun first second =>
    first.moment ≤ second.moment

/-- Take everything out of a pipe. -/
def drainPipe (state : State) (pipe : Nat) : State × Bytes :=
  ({ state with writes := state.writes.filter (·.channel ≠ .pipe pipe) },
    (state.writesTo (.pipe pipe)).flatMap Write.bytes)

/-! ## Variables -/

/-- The value of a variable, if it is set. -/
def valueOf? (state : State) (name : Bytes) : Option Bytes :=
  (state.bindings.lookup name).bind Variable.value

/-- The value of a variable; nothing for one that is not set. -/
def variableValue (state : State) (name : String) : Bytes :=
  (state.valueOf? (Bytes.ofText name)).getD []

/-- Replace a variable. -/
def putVariable (state : State) (name : Bytes) (entry : Option Variable) : State :=
  { state with
    bindings :=
      (entry.map (name, ·)).toList ++ state.bindings.filter fun entry => entry.1 ≠ name }

/-- Whether a variable can be changed. -/
def isFixed (state : State) (name : Bytes) : Bool :=
  (state.bindings.lookup name).any Variable.fixed

/-- Set a variable to a value. -/
def setVariable (state : State) (name value : Bytes) : State :=
  let old := (state.bindings.lookup name).getD { value := none }
  state.putVariable name
    (some { old with value := some value, exported := old.exported || state.options.exportAll })

/-- The variables that programs receive, with their values. -/
def environment (state : State) : List (Bytes × Bytes) :=
  state.bindings.reverse.filterMap fun (name, entry) =>
    if entry.exported then entry.value.map (name, ·) else none

/-- The bytes that separate fields. -/
def separators (state : State) : Bytes :=
  (state.valueOf? (Bytes.ofText "IFS")).getD [0x20, 0x09, 0x0A]

/-- The letters of the options that are switched on. -/
def optionLetters (state : State) : Bytes :=
  let options := state.options
  Bytes.ofText
    (String.join
      ([(options.refuseUnset, "u"), (options.exportAll, "a"), (options.trace, "x"),
          (options.noNames, "f"), (options.exitOnFailure, "e")].map fun (isOn, letter) =>
        if isOn then letter else ""))

/-- The value of a parameter other than the arguments as a whole; nothing when it
is not set. -/
def parameter? (state : State) : Parameter → Option Bytes
  | .named name => state.valueOf? name
  | .position 0 => some state.name
  | .position (number + 1) => state.arguments[number]?
  | .count => some (Bytes.ofText (toString state.arguments.length))
  | .joined | .each =>
      if state.arguments = [] then none else some (List.intercalate [0x20] state.arguments)
  | .status => some (Bytes.ofText (toString state.status))
  | .process => some (Bytes.ofText (toString shellProcess))
  | .background => state.background.map fun process => Bytes.ofText (toString process)
  | .options => some state.optionLetters

/-! ## Signals and ends -/

/-- A state in which the shell is about to end. -/
def leave (state : State) (status : ExitStatus) : State :=
  { state with leaving := some (.shell status) }

/-- A state in which the shell is about to end with its last status. -/
def leaveWith (state : State) (code : Nat) : State :=
  { state with status := code, leaving := some (.shell (.exited code)) }

/-- The signals that do not end a program that has no commands for them: those
that are ignored and those that stop it. -/
def harmlessSignals : List Nat := [17, 18, 19, 20, 21, 22, 23, 28]

/-- The signals that cannot be given commands. -/
def untrappable : List Nat := [9, 19]

/-- Receive a signal: its commands are run later; without commands the shell
ends. -/
def receive (state : State) (signal : Nat) : State :=
  match if untrappable.contains signal then none else state.traps.lookup signal with
  | some [] => state
  | some _ => { state with pending := state.pending ++ [signal] }
  | none =>
      if signal = 0 || harmlessSignals.contains signal then state
      else state.leave (.signalled signal)

/-- Send a signal to the process of the shell.  A copy of the shell leaves it to
the shell. -/
def post (state : State) (signal : Nat) : State :=
  if state.process = shellProcess then state.receive signal
  else { state with posted := state.posted ++ [signal] }

/-- Send a signal to a process in the background: it has not written what it
would write from now on.  The outcome tells whether there is such a process. -/
def killJob (state : State) (process signal : Nat) : State × Bool :=
  match state.jobs.find? (·.process = process) with
  | none => (state, false)
  | some job =>
      if job.ended ≤ state.clock then (state, false)
      else if signal = 0 || harmlessSignals.contains signal then (state, true)
      else
        ({ state with
          writes := state.writes.filter fun write =>
            write.process ≠ process || write.moment ≤ state.clock
          jobs := state.jobs.map fun other =>
            if other.process = process then
              { process, status := .signalled signal, ended := state.clock }
            else other },
          true)

/-- The status of a command that ended in some way. -/
def codeOf : ExitStatus → Nat
  | .exited code => code
  | .signalled number => 128 + number

/-- Let time pass until a moment, unless it is over. -/
def waitUntil (state : State) (moment : Nat) : State :=
  { state with clock := max state.clock moment }

/-- The signals whose effect on another process is not worth mentioning. -/
def quietSignals : List Nat := [2, 13]

/-- Mention that a signal ended another process. -/
def showEnd (state : State) : ExitStatus → State
  | .exited _ => state
  | .signalled number =>
      if quietSignals.contains number then state
      else state.writeError (Bytes.ofText (ExitStatus.describeSignal number ++ "\n"))

end State

end CompileDriver.Shell
