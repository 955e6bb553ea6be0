/-!
# Exit statuses

How a program ended: with an exit code, or by a signal.
-/

namespace CompileDriver

/-- How a program ended. -/
inductive ExitStatus
  | exited (code : Nat)
  | signalled (number : Nat)
  deriving Repr, DecidableEq

namespace ExitStatus

/-- The names of the signals 1 to 31. -/
def signalNames : List String :=
  ["SIGHUP", "SIGINT", "SIGQUIT", "SIGILL", "SIGTRAP", "SIGABRT", "SIGBUS", "SIGFPE", "SIGKILL",
    "SIGUSR1", "SIGSEGV", "SIGUSR2", "SIGPIPE", "SIGALRM", "SIGTERM", "SIGSTKFLT", "SIGCHLD",
    "SIGCONT", "SIGSTOP", "SIGTSTP", "SIGTTIN", "SIGTTOU", "SIGURG", "SIGXCPU", "SIGXFSZ",
    "SIGVTALRM", "SIGPROF", "SIGWINCH", "SIGIO", "SIGPWR", "SIGSYS"]

/-- The name of a signal, if it has one. -/
def signalName (number : Nat) : Option String :=
  if number = 0 then none else signalNames[number - 1]?

/-- The descriptions of the signals 1 to 31. -/
def signalDescriptions : List String :=
  ["Hangup", "Interrupt", "Quit", "Illegal instruction", "Trace/breakpoint trap", "Aborted",
    "Bus error", "Floating point exception", "Killed", "User defined signal 1",
    "Segmentation fault", "User defined signal 2", "Broken pipe", "Alarm clock", "Terminated",
    "Stack fault", "Child exited", "Continued", "Stopped (signal)", "Stopped",
    "Stopped (tty input)", "Stopped (tty output)", "Urgent I/O condition",
    "CPU time limit exceeded", "File size limit exceeded", "Virtual timer expired",
    "Profiling timer expired", "Window changed", "I/O possible", "Power failure",
    "Bad system call"]

/-- The number of the first signal that has no meaning of its own. -/
def firstFreeSignal : Nat := 34

/-- The largest number of a signal. -/
def lastSignal : Nat := 64

/-- The description of a signal. -/
def describeSignal (number : Nat) : String :=
  if number < firstFreeSignal then
    (if number = 0 then none else signalDescriptions[number - 1]?).getD
      ("Unknown signal " ++ toString number)
  else "Real-time signal " ++ toString (number - firstFreeSignal)

/-- Whether the program ended successfully. -/
def isSuccess : ExitStatus → Bool
  | .exited code => code = 0
  | .signalled _ => false

/-- The text of a status. -/
def text : ExitStatus → String
  | .exited code => "exit status: " ++ toString code
  | .signalled number =>
      match signalName number with
      | some name => "signal: " ++ toString number ++ " (" ++ name ++ ")"
      | none => "signal: " ++ toString number

end ExitStatus

end CompileDriver
