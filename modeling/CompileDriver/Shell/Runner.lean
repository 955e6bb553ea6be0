import CompileDriver.Shell.Expansion
import CompileDriver.Shell.Parser

/-!
# Copies of a shell

Much of what a shell does is done in a copy of it: the commands in brackets, in a
pipeline, in the background and those whose output is put into a word.  A copy
has its own end; the shell goes on with what the copy left of the world.

This module holds what happens around a run of commands; how a command is run is
a parameter.
-/

namespace CompileDriver.Shell

/-- How a command is run. -/
structure Manner where
  /-- Whether its outcome is looked at, so that it may fail. -/
  tested : Bool := false
  /-- Whether the shell ends with it. -/
  final : Bool := false

/-- What runs programs and commands. -/
structure Runner where
  start : Launcher
  run : Manner → Command → State → State

namespace State

/-- Run the lines of a script one after the other, until the shell leaves it. -/
def runLines (run : Manner → Command → State → State) (manner : Manner) (state : State) :
    List Command → State
  | [] => state
  | command :: rest =>
      if state.leaving.isSome then state
      else
        let isLast := rest = []
        runLines run manner (run { manner with final := manner.final && isLast } command state) rest

end State

namespace Runner

variable (runner : Runner)

/-- Run a script.  A mistake in it ends the shell when the lines before it have
been run. -/
def runText (manner : Manner) (script : Bytes) (state : State) : State :=
  let (commands, error) := parse script
  let manner := { manner with final := manner.final && error.isNone }
  let state := state.runLines runner.run manner commands
  match error with
  | none => state
  | some error =>
      if state.leaving.isSome then state
      else
        ({ state with line := error.line }.report (Bytes.ofText error.message)).leaveWith 2

/-- Run the commands for the signals that have arrived. -/
def runPending (state : State) : State :=
  if state.leaving.isSome then state
  else
    state.pending.foldl
      (fun state signal =>
        match state.traps.lookup signal with
        | none => state
        | some action =>
            let after := runner.runText {} action state
            if after.leaving.isSome then after else { after with status := state.status })
      { state with pending := [] }

/-- How a shell ends that is about to end or has run all its commands. -/
def endOf (state : State) : ExitStatus :=
  match state.leaving with
  | some (.shell status) => status
  | _ => .exited state.status

/-- Run the commands for the end of a shell, unless a signal ended it: the last
state and how the shell ended. -/
def finish (state : State) : State × ExitStatus :=
  let status := endOf state
  match status, state.traps.lookup 0 with
  | .exited code, some (byte :: action) =>
      let after := runner.runText {} (byte :: action)
        { state with leaving := none, status := code, traps := [], line := 1, caller := none }
      (after,
        match after.leaving with
        | some (.shell status) => status
        | _ => status)
  | _, _ => (state, status)

/-- A copy of a shell.  It has no commands for signals, but goes on ignoring what
the shell ignores. -/
def copyOf (state : State) : State :=
  { state with
    process := shellProcess + state.copies + 1
    copies := state.copies + 1
    traps := state.traps.filter (·.2 = [])
    jobs := []
    pending := []
    posted := [] }

/-- The state of a shell after a copy of it has run. -/
def afterCopy (state copy : State) : State :=
  copy.posted.foldl State.post
    { state with
      files := copy.files
      sources := copy.sources
      pipes := copy.pipes
      writes := copy.writes
      clock := copy.clock
      copies := copy.copies }

/-- Run something in a copy and wait for its end: the state of the shell and how
the copy ended. -/
def inCopy (state : State) (body : State → State) : State × ExitStatus :=
  let (copy, status) := runner.finish (body (copyOf state))
  ((afterCopy state copy).withStatus (State.codeOf status), status)

/-- Run something in a copy, and mention the signal that ended it. -/
def waitForCopy (state : State) (body : State → State) : State :=
  let (after, status) := runner.inCopy state body
  if after.leaving.isSome then after else after.showEnd status

/-- Run a script in a copy: the state of the shell, and what the script wrote to
its standard output. -/
def substitute (script : Bytes) (state : State) : State × Bytes :=
  let (state, pipe) := state.makePipe
  let after := runner.waitForCopy state fun copy =>
    runner.runText { final := true } script (copy.setChannel 1 (some (.pipe pipe)))
  after.drainPipe pipe

/-- Start something in a copy that is not waited for.  It has run when the shell
goes on, but for the shell no time has passed. -/
def inBackground (state : State) (body : State → State) : State :=
  let copy := copyOf state
  let (ended, status) := runner.finish (body (copy.setChannel 0 (some .nowhere)))
  { afterCopy state ended with
    clock := state.clock
    status := 0
    background := some copy.process
    jobs := state.jobs ++ [{ process := copy.process, status, ended := ended.clock }] }

end Runner

end CompileDriver.Shell
