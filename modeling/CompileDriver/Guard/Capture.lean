import CompileDriver.Guard.Scope

/-!
# Capturing both streams

While a capture is active both standard streams point at pipes, which reader
threads empty into memory.  Starting acquires two pipes, two scopes and two
threads, in this order, and gives everything back when a step fails.  Stopping
restores the streams, closes the writing ends, waits for the readers to see the
end of their pipes and closes the reading ends last, so that a stream never
points at a pipe that nobody can read.

A capture can be started again; what is captured then adds to what was captured
before.
-/

namespace CompileDriver

/-- Why a capture could not be started. -/
inductive CaptureError
  /-- It is running already. -/
  | alreadyActive
  /-- A pipe could not be made. -/
  | pipe (stream : Stream) (error : OsError)
  /-- The descriptor of a stream could not be saved or redirected. -/
  | redirect (stream : Stream) (error : OsError)
  /-- The reader of a stream could not be started. -/
  | reader (stream : Stream) (error : OsError)
  /-- The platform cannot redirect descriptors. -/
  | unsupported
  deriving Repr, DecidableEq

/-- The text of an error. -/
def CaptureError.message : CaptureError → String
  | .alreadyActive => "output is already being captured"
  | .pipe stream error => s!"couldn't create a pipe for `{stream.name}`: {error.message}"
  | .redirect stream error => s!"couldn't redirect `{stream.name}`: {error.message}"
  | .reader stream error => s!"couldn't start the `{stream.name}` reader: {error.message}"
  | .unsupported => "capturing output is not supported on this platform"

/-- One redirected stream of an active capture. -/
structure Tap where
  scope : Scope
  /-- The number of the writing end of the pipe. -/
  writer : Nat
  /-- The number of the reading end of the pipe. -/
  source : Nat
  /-- The thread that reads, once it is started. -/
  thread : Option Nat
  deriving Repr, DecidableEq

/-- A guard that captures both standard streams. -/
structure Capture where
  /-- What has been captured, apart from what the running readers hold. -/
  captured : PerStream Bytes := { stdout := [], stderr := [] }
  /-- The redirected streams, while the capture is active. -/
  taps : Option (PerStream Tap) := none
  /-- Whether the readers poll their pipes instead of waiting. -/
  nonblocking : Bool := false
  deriving Repr, DecidableEq

/-- The captured texts of both streams. -/
structure CapturedOutput where
  stdout : String := ""
  stderr : String := ""
  deriving Repr, DecidableEq

namespace Capture

/-- Whether the streams are being captured. -/
def isActive (capture : Capture) : Bool :=
  capture.taps.isSome

/-- What has been captured of a stream so far. -/
def bytes (capture : Capture) (stream : Stream) : Action Bytes := do
  let host ← get
  let running := capture.taps.bind fun taps =>
    (taps.get stream).thread.bind fun thread => host.reader? thread
  return capture.captured.get stream ++ (running.map Reader.collected).getD []

/-- What has been captured of a stream so far, lossily decoded. -/
def text (capture : Capture) (stream : Stream) : Action String := do
  return Utf8.lossy (← capture.bytes stream)

/-- Close both ends of a pipe, the reading end first. -/
def closePipe (ends : Nat × Nat) : Action Unit := do
  SystemCall.close ends.1
  SystemCall.close ends.2

/-- Wait for the reader of a tap, if one was started: what it has read and how
it ended. -/
def joinTap (tap : Tap) : Action (Bytes × Option OsError) := do
  match tap.thread with
  | none => return ([], none)
  | some thread =>
      match ← SystemCall.joinReader thread with
      | none => return ([], none)
      | some reader =>
          match reader.status with
          | .failed error => return (reader.collected, some error)
          | _ => return (reader.collected, none)

/-- Ask the reader of a tap to stop, if one was started. -/
def askToStop (tap : Tap) : Action Unit :=
  match tap.thread with
  | none => return ()
  | some thread => modify fun host => host.askToStop thread

/-- Report a reader that ended before its pipe did. -/
def reportEarlyEnd (stream : Stream) : Option OsError → Action Unit
  | none => return ()
  | some error => Log.debug s!"the `{stream.name}` capture ended early: {error.message}"

/-- Restore both streams and wait until everything that was written to them is
captured.  Nothing happens when the capture is not active. -/
def stop (capture : Capture) : Action Capture := do
  match capture.taps with
  | none => return capture
  | some taps =>
      askToStop taps.stdout
      askToStop taps.stderr
      discard taps.stdout.scope.restore
      discard taps.stderr.scope.restore
      SystemCall.close taps.stdout.writer
      SystemCall.close taps.stderr.writer
      let (stdout, stdoutEnd) ← joinTap taps.stdout
      let (stderr, stderrEnd) ← joinTap taps.stderr
      SystemCall.close taps.stdout.source
      SystemCall.close taps.stderr.source
      reportEarlyEnd .stdout stdoutEnd
      reportEarlyEnd .stderr stderrEnd
      return { capture with
        captured :=
          { stdout := capture.captured.stdout ++ stdout
            stderr := capture.captured.stderr ++ stderr }
        taps := none }

/-- Switch the reading end of a pipe to polling when that is asked for, and
start its reader. -/
def startTap (tap : Tap) (nonblocking : Bool) : Action (Except OsError Nat) := do
  let switched ← if nonblocking then SystemCall.setPolling tap.source else pure (.ok ())
  match switched with
  | .error error => return .error error
  | .ok () => SystemCall.startReader tap.source

/-- Start the readers of both streams.  When one of them cannot be started the
capture is stopped again. -/
def startReaders (capture : Capture) (taps : PerStream Tap) :
    Action (Except CaptureError Unit × Capture) := do
  match ← startTap taps.stdout capture.nonblocking with
  | .error error =>
      let stopped ← { capture with taps := some taps }.stop
      return (.error (.reader .stdout error), stopped)
  | .ok first =>
      let taps := { taps with stdout := { taps.stdout with thread := some first } }
      match ← startTap taps.stderr capture.nonblocking with
      | .error error =>
          let stopped ← { capture with taps := some taps }.stop
          return (.error (.reader .stderr error), stopped)
      | .ok second =>
          let taps := { taps with stderr := { taps.stderr with thread := some second } }
          return (.ok (), { capture with taps := some taps })

/-- The scopes of both streams, each saved and redirected to the writing end of
its pipe.  After a failure the scopes are restored, the last one first. -/
def redirectBoth (writers : PerStream Nat) : Action (Except CaptureError (PerStream Scope)) := do
  match ← Scope.save .stdout with
  | .error error => return .error (.redirect .stdout error)
  | .ok stdout =>
      match ← Scope.save .stderr with
      | .error error =>
          discard stdout.restore
          return .error (.redirect .stderr error)
      | .ok stderr =>
          match ← stdout.redirectTo writers.stdout with
          | .error error =>
              discard stderr.restore
              discard stdout.restore
              return .error (.redirect .stdout error)
          | .ok () =>
              match ← stderr.redirectTo writers.stderr with
              | .error error =>
                  discard stderr.restore
                  discard stdout.restore
                  return .error (.redirect .stderr error)
              | .ok () => return .ok { stdout, stderr }

/-- Redirect both streams into pipes and start reading them.  After a failure
the streams are as they were and everything acquired on the way is given
back. -/
def start (capture : Capture) : Action (Except CaptureError Unit × Capture) := do
  if capture.isActive then return (.error .alreadyActive, capture)
  else match ← SystemCall.pipe with
    | .error error => return (.error (.pipe .stdout error), capture)
    | .ok stdoutPipe =>
        match ← SystemCall.pipe with
        | .error error =>
            closePipe stdoutPipe
            return (.error (.pipe .stderr error), capture)
        | .ok stderrPipe =>
            match ← redirectBoth { stdout := stdoutPipe.2, stderr := stderrPipe.2 } with
            | .error error =>
                closePipe stderrPipe
                closePipe stdoutPipe
                return (.error error, capture)
            | .ok scopes =>
                capture.startReaders
                  { stdout :=
                      { scope := scopes.stdout
                        writer := stdoutPipe.2
                        source := stdoutPipe.1
                        thread := none }
                    stderr :=
                      { scope := scopes.stderr
                        writer := stderrPipe.2
                        source := stderrPipe.1
                        thread := none } }

/-- Stop the capture and take the captured texts. -/
def intoOutput (capture : Capture) : Action CapturedOutput := do
  let stopped ← capture.stop
  return { stdout := Utf8.lossy stopped.captured.stdout
           stderr := Utf8.lossy stopped.captured.stderr }

end Capture

end CompileDriver
