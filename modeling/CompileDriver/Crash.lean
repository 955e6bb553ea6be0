import CompileDriver.Host.StandardStream

/-!
# Crash reports

A panic is a defect of the program itself.  The crash handler lets the first
panicking thread write one report to standard error and ends the process; the
guards of redirected streams are not unwound before that.
-/

namespace CompileDriver

/-- What is known about a panic. -/
structure Panic where
  /-- The message, when the panic carries a text. -/
  message : Option String
  /-- Where in the program it happened. -/
  location : String := ""
  /-- The name of the panicking thread, when it has one. -/
  thread : Option String := none
  /-- The calls that led to it. -/
  backtrace : String := ""
  deriving Repr, DecidableEq

namespace CrashReport

/-- The first words of a report. -/
def greeting : String := "Sorry :^(\nInternal Error"

/-- The message, up to the empty line behind it. -/
def messageLine (panic : Panic) : String :=
  (panic.message.map (": " ++ ·)).getD "" ++ "\n\n"

/-- The start of a report, up to the empty line behind the message. -/
def header (panic : Panic) : String :=
  greeting ++ messageLine panic

/-- The line that says where it happened. -/
def locationLine (panic : Panic) : String :=
  "Occurred at '" ++ panic.location ++ "'\n"

/-- The line that names the thread. -/
def threadLine (panic : Panic) : String :=
  match panic.thread with
  | some name => "Backtrace for thread \"" ++ name ++ "\":"
  | none => "Backtrace:"

/-- The last line of a report. -/
def footer : String :=
  "This is a bug in syqure, please file a bug report with the output above and the program "
    ++ "that triggered it."

/-- The parts of a report, in the order in which they are written. -/
def parts (panic : Panic) : List String :=
  [greeting, messageLine panic, locationLine panic,
    threadLine panic ++ "\n" ++ panic.backtrace ++ "\n", footer ++ "\n"]

/-- The exit code of a process that crashed. -/
def exitCode : Nat := 1

end CrashReport

namespace Panic

/-- Write the report of a panic part by part. -/
def writeReport (panic : Panic) : Action Unit :=
  (CrashReport.parts panic).forM fun part => Stream.stderr.write (Bytes.ofText part)

/-- Write the report of a panic, unless another thread has begun one. -/
def report (panic : Panic) : Action Unit := do
  let host ← get
  if host.crashReported then return ()
  else
    set { host with crashReported := true }
    panic.writeReport

/-- What becomes of the process after a panic: the code that it exits with, or
nothing when the panic unwinds. -/
def raise (panic : Panic) : Action (Option Nat) := do
  match (← get).panicHook with
  | .unwind => return none
  | .crashReport =>
      panic.report
      return some CrashReport.exitCode

end Panic

/-- How an operation ended that a panic can cut short. -/
inductive Ending (α : Type)
  /-- It returned a value. -/
  | returned (value : α)
  /-- A panic unwound it. -/
  | unwound (panic : Panic)
  /-- The process exited in the middle of it. -/
  | exited (code : Nat)
  deriving Repr, DecidableEq

namespace Ending

/-- Go on with the value of an operation that returned. -/
def map {α β : Type} (change : α → β) : Ending α → Ending β
  | .returned value => .returned (change value)
  | .unwound panic => .unwound panic
  | .exited code => .exited code

end Ending

end CompileDriver
