import CompileDriver.Highlight
import CompileDriver.Stream

/-!
# Log records

The levels of log records and how a record is written.  A record is enabled
when it is at least as severe as the current threshold.  Error records and all
other records can be written to different outputs: a standard stream of the
process or a buffer in memory.
-/

namespace CompileDriver

/-- How severe a record is. -/
inductive Level
  | error
  | warn
  | info
  | debug
  | trace
  deriving Repr, DecidableEq

namespace Level

/-- The position of a level, the most severe one first. -/
def rank : Level → Nat
  | .error => 1
  | .warn => 2
  | .info => 3
  | .debug => 4
  | .trace => 5

/-- The name of a level. -/
def name : Level → String
  | .error => "error"
  | .warn => "warn"
  | .info => "info"
  | .debug => "debug"
  | .trace => "trace"

/-- The colour of a level. -/
def colour : Level → Colour
  | .error => .red
  | .warn => .yellow
  | .info => .blue
  | .debug => .blue
  | .trace => .magenta

end Level

/-- The least severe level that is still logged; none when logging is off. -/
abbrev Threshold := Option Level

/-- Whether records of a level pass the threshold. -/
def Threshold.admits (threshold : Threshold) (level : Level) : Bool :=
  threshold.any fun least => level.rank ≤ least.rank

/-- The line of a record. -/
def Level.line (level : Level) (message : String) : String :=
  (Decoration.boldIn level.colour).apply level.name ++ ": " ++ message ++ "\n"

/-- Where messages are written to. -/
inductive Output
  /-- A standard stream of the process. -/
  | standard (stream : Stream)
  /-- A buffer in memory, which everyone who knows its number shares. -/
  | buffer (number : Nat)
  deriving Repr, DecidableEq

/-- Where records go.  Each route is attached at most once, and a record whose
route is not attached is dropped. -/
structure Logger where
  /-- The route of all records but errors. -/
  output : Option Output := none
  /-- The route of error records. -/
  error : Option Output := none
  deriving Repr, DecidableEq

namespace Logger

/-- Attach the route of the ordinary records; the first attachment wins. -/
def attachOutput (logger : Logger) (output : Output) : Logger :=
  { logger with output := logger.output.or (some output) }

/-- Attach the route of the error records; the first attachment wins. -/
def attachError (logger : Logger) (output : Output) : Logger :=
  { logger with error := logger.error.or (some output) }

/-- Where records of a level go. -/
def route (logger : Logger) : Level → Option Output
  | .error => logger.error
  | _ => logger.output

end Logger

end CompileDriver
