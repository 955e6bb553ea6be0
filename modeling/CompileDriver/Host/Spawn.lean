import CompileDriver.Host.StandardStream
import CompileDriver.Program.Execution

/-!
# Starting programs from the process

A program either inherits the standard streams of the process, so that its
writes go wherever these point, or its output is collected apart.  Collecting
takes descriptors for the empty input and for two pipes while the program runs.
-/

namespace CompileDriver

/-- The environment variables of a program that is started in an
environment. -/
def Host.bindings (host : Host) (environment : Environment) : List (Bytes × Bytes) :=
  (Bytes.ofText "TMPDIR", host.temporary.path) ::
    (environment.codonPath.map (Bytes.ofText "CODON_PATH", ·)).toList ++
    (environment.pluginPath.map (Bytes.ofText "CODON_PLUGIN_PATH", ·)).toList

namespace Spawn

/-- Start a program: what its run does, unless it cannot be started. -/
def launch (launcher : Launcher) (invocation : Invocation) :
    Action (Except OsError Execution) := do
  modify fun host => host.note (.launched invocation)
  return launcher invocation (← get).files

/-- Let a program write to a stream that it inherited.  A stream that is closed
or not inherited swallows everything. -/
def writeInherited (stream : Stream) (bytes : Bytes) : Action Unit := do
  match (← get).table.get? stream.number with
  | some { inherited := true, .. } => discard (SystemCall.write stream.number bytes)
  | _ => return ()

/-- The standard streams that a program does not receive. -/
def closedStreams (host : Host) : List Stream :=
  [.stdout, .stderr].filter fun stream =>
    !(host.table.get? stream.number).any Descriptor.inherited

/-- Run a program that inherits the standard streams, and wait for its end. -/
def inheriting (launcher : Launcher) (invocation : Invocation) :
    Action (Except OsError ExitStatus) := do
  match invocation.check with
  | .error error => return .error error
  | .ok () =>
      let closed := closedStreams (← get)
      match ← launch launcher { invocation with closed } with
      | .error error => return .error error
      | .ok execution =>
          modify fun host => { host with files := execution.files }
          execution.output.forM fun write => writeInherited write.stream write.bytes
          return .ok execution.status

/-- What a program wrote to its two streams, and how it ended. -/
structure Collected where
  output : PerStream Bytes
  status : ExitStatus

/-- Close descriptors in order. -/
def closeAll (numbers : List Nat) : Action Unit :=
  numbers.forM SystemCall.close

/-- Run a program whose output is collected, on descriptors for the empty input
and for the pipes of its two streams. -/
def collectingOn (launcher : Launcher) (invocation : Invocation) (input : Nat)
    (stdout stderr : Nat × Nat) : Action (Except OsError Collected) := do
  let started ← launch launcher invocation
  closeAll [stderr.2, stdout.2, input]
  match started with
  | .error error =>
      closeAll [stderr.1, stdout.1]
      return .error error
  | .ok execution =>
      modify fun host => { host with files := execution.files }
      closeAll [stdout.1, stderr.1]
      return .ok
        { output :=
            { stdout := execution.written .stdout
              stderr := execution.written .stderr }
          status := execution.status }

/-- Run a program whose output is collected, and wait for its end. -/
def collecting (launcher : Launcher) (invocation : Invocation) :
    Action (Except OsError Collected) := do
  match invocation.check with
  | .error error => return .error error
  | .ok () =>
      match ← SystemCall.openDiscard with
      | .error error => return .error error
      | .ok input =>
          match ← SystemCall.pipe with
          | .error error =>
              closeAll [input]
              return .error error
          | .ok stdout =>
              match ← SystemCall.pipe with
              | .error error =>
                  closeAll [stdout.2, stdout.1, input]
                  return .error error
              | .ok stderr => collectingOn launcher invocation input stdout stderr

end Spawn

end CompileDriver
