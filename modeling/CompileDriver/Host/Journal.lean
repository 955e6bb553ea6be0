import CompileDriver.Host.Basic

/-!
# Reading the journal

Views of the journal of a host: the moments between two states, and of these the
calls on sessions and their answers, the log records, the programs that were
started and the bytes that were delivered to a descriptor number.  Adding a moment changes each view
at its end only.
-/

namespace CompileDriver

namespace Moment

/-- The call on a session, when the moment is the start of one. -/
def call? (moment : Moment) : Option SessionCall :=
  match moment.event with
  | .sessionCall call => some call
  | _ => none

/-- The call and the error that it reports, when the moment is the return from a
call on a session. -/
def answer? (moment : Moment) : Option (SessionCall × Option ToolchainError) :=
  match moment.event with
  | .sessionReturn call failure => some (call, failure)
  | _ => none

/-- The level and the message, when the moment is the emission of a log
record. -/
def record? (moment : Moment) : Option (Level × String) :=
  match moment.event with
  | .logRecord level message => some (level, message)
  | _ => none

/-- The bytes that the moment delivers to a number. -/
def deliveredTo (number : Nat) (moment : Moment) : Bytes :=
  match moment.event with
  | .delivered other bytes => if other = number then bytes else []
  | _ => []

end Moment

namespace Host

/-- Everything that has happened, in order. -/
def history (host : Host) : List Moment :=
  host.journal.reverse

/-- What has happened since an earlier state, in order. -/
def historySince (host earlier : Host) : List Moment :=
  host.history.drop earlier.journal.length

/-- The bytes that were delivered to a number since an earlier state. -/
def deliveredSince (host earlier : Host) (number : Nat) : Bytes :=
  (host.historySince earlier).flatMap (Moment.deliveredTo number)

/-- The calls on sessions since an earlier state. -/
def callsSince (host earlier : Host) : List SessionCall :=
  (host.historySince earlier).filterMap Moment.call?

/-- The calls on sessions that have returned since an earlier state, each with
the error that it reported. -/
def answersSince (host earlier : Host) : List (SessionCall × Option ToolchainError) :=
  (host.historySince earlier).filterMap Moment.answer?

/-- Nothing has happened since the present state. -/
theorem historySince_self (host : Host) : host.historySince host = [] := by
  simp [historySince, history]

end Host

end CompileDriver
