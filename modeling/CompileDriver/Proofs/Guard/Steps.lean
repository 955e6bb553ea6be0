import CompileDriver.Guard.Capture
import CompileDriver.Proofs.Guard.Uses
import CompileDriver.Proofs.Host.Routine

/-!
# The steps of guards

All that a process can do with guards, as routines: every system call, every flush and every
wait for a reader is a step.  Taken without interruption a routine is the same as the action.

The uses of guards can come in any order.  Guards need not be ended in the opposite order of
their making.
-/

namespace CompileDriver

open Routine (call)

namespace Scope

def saving (stream : Stream) : Routine (Except OsError Scope) := do
  call stream.flush
  match ← call (SystemCall.duplicate stream.number) with
  | .error error => return .error error
  | .ok copy => return .ok { stream, saved := some copy }

def restoring (scope : Scope) : Routine Scope := do
  match scope.saved with
  | none => return scope
  | some copy =>
      call scope.stream.flush
      let _ ← call (SystemCall.giveBack copy scope.stream.number)
      call (SystemCall.close copy)
      return { scope with saved := none }

theorem perform_saving (stream : Stream) : (saving stream).perform = save stream := by
  refine Routine.perform_bind rfl fun _ => Routine.perform_bind rfl fun outcome => ?_
  cases outcome <;> rfl

theorem perform_restoring (scope : Scope) : scope.restoring.perform = scope.restore := by
  unfold restoring restore
  cases scope.saved <;> rfl

end Scope

namespace Capture

def closingPipe (ends : Nat × Nat) : Routine Unit := do
  call (SystemCall.close ends.1)
  call (SystemCall.close ends.2)

def stopping (capture : Capture) : Routine Capture := do
  match capture.taps with
  | none => return capture
  | some taps =>
      call (askToStop taps.stdout)
      call (askToStop taps.stderr)
      let _ ← taps.stdout.scope.restoring
      let _ ← taps.stderr.scope.restoring
      call (SystemCall.close taps.stdout.writer)
      call (SystemCall.close taps.stderr.writer)
      let (stdout, stdoutEnd) ← call (joinTap taps.stdout)
      let (stderr, stderrEnd) ← call (joinTap taps.stderr)
      call (SystemCall.close taps.stdout.source)
      call (SystemCall.close taps.stderr.source)
      call (reportEarlyEnd .stdout stdoutEnd)
      call (reportEarlyEnd .stderr stderrEnd)
      return { capture with
        captured :=
          { stdout := capture.captured.stdout ++ stdout
            stderr := capture.captured.stderr ++ stderr }
        taps := none }

def startingTap (tap : Tap) (nonblocking : Bool) : Routine (Except OsError Nat) := do
  let switched ← if nonblocking then call (SystemCall.setPolling tap.source) else pure (.ok ())
  match switched with
  | .error error => return .error error
  | .ok () => call (SystemCall.startReader tap.source)

def startingReaders (capture : Capture) (taps : PerStream Tap) :
    Routine (Except CaptureError Unit × Capture) := do
  match ← startingTap taps.stdout capture.nonblocking with
  | .error error =>
      let stopped ← { capture with taps := some taps }.stopping
      return (.error (.reader .stdout error), stopped)
  | .ok first =>
      let taps := { taps with stdout := { taps.stdout with thread := some first } }
      match ← startingTap taps.stderr capture.nonblocking with
      | .error error =>
          let stopped ← { capture with taps := some taps }.stopping
          return (.error (.reader .stderr error), stopped)
      | .ok second =>
          let taps := { taps with stderr := { taps.stderr with thread := some second } }
          return (.ok (), { capture with taps := some taps })

def redirectingBoth (writers : PerStream Nat) :
    Routine (Except CaptureError (PerStream Scope)) := do
  match ← Scope.saving .stdout with
  | .error error => return .error (.redirect .stdout error)
  | .ok stdout =>
      match ← Scope.saving .stderr with
      | .error error =>
          let _ ← stdout.restoring
          return .error (.redirect .stderr error)
      | .ok stderr =>
          match ← call (stdout.redirectTo writers.stdout) with
          | .error error =>
              let _ ← stderr.restoring
              let _ ← stdout.restoring
              return .error (.redirect .stdout error)
          | .ok () =>
              match ← call (stderr.redirectTo writers.stderr) with
              | .error error =>
                  let _ ← stderr.restoring
                  let _ ← stdout.restoring
                  return .error (.redirect .stderr error)
              | .ok () => return .ok { stdout, stderr }

def starting (capture : Capture) : Routine (Except CaptureError Unit × Capture) := do
  if capture.isActive then return (.error .alreadyActive, capture)
  else match ← call SystemCall.pipe with
    | .error error => return (.error (.pipe .stdout error), capture)
    | .ok stdoutPipe =>
        match ← call SystemCall.pipe with
        | .error error =>
            closingPipe stdoutPipe
            return (.error (.pipe .stderr error), capture)
        | .ok stderrPipe =>
            match ← redirectingBoth { stdout := stdoutPipe.2, stderr := stderrPipe.2 } with
            | .error error =>
                closingPipe stderrPipe
                closingPipe stdoutPipe
                return (.error error, capture)
            | .ok scopes =>
                capture.startingReaders
                  { stdout :=
                      { scope := scopes.stdout
                        writer := stdoutPipe.2
                        source := stdoutPipe.1
                        thread := none }
                    stderr :=
                      { scope := scopes.stderr
                        writer := stderrPipe.2
                        source := stderrPipe.1
                        thread := none } }

/-! ## Without interruption -/

section

open Routine (perform_bind perform_discard)

theorem perform_stopping (capture : Capture) : capture.stopping.perform = capture.stop := by
  unfold stopping stop
  cases capture.taps with
  | none => rfl
  | some taps =>
      refine perform_bind rfl fun _ => perform_bind rfl fun _ => ?_
      refine perform_discard (Scope.perform_restoring _) ?_
      refine perform_discard (Scope.perform_restoring _) ?_
      rfl

theorem perform_startingTap (tap : Tap) (nonblocking : Bool) :
    (startingTap tap nonblocking).perform = startTap tap nonblocking := by
  cases nonblocking with
  | false => rfl
  | true =>
      refine perform_bind rfl fun switched => ?_
      cases switched <;> rfl

theorem perform_startingReaders (capture : Capture) (taps : PerStream Tap) :
    (capture.startingReaders taps).perform = capture.startReaders taps := by
  refine perform_bind (perform_startingTap _ _) fun first => ?_
  cases first with
  | error error => exact perform_bind (perform_stopping _) fun _ => rfl
  | ok first =>
      refine perform_bind (perform_startingTap _ _) fun second => ?_
      cases second with
      | error error => exact perform_bind (perform_stopping _) fun _ => rfl
      | ok second => rfl

theorem perform_redirectingBoth (writers : PerStream Nat) :
    (redirectingBoth writers).perform = redirectBoth writers := by
  refine perform_bind (Scope.perform_saving _) fun stdout => ?_
  cases stdout with
  | error error => rfl
  | ok stdout =>
      refine perform_bind (Scope.perform_saving _) fun stderr => ?_
      cases stderr with
      | error error => exact perform_discard (Scope.perform_restoring _) rfl
      | ok stderr =>
          have undone (error : CaptureError) : Routine.perform (do
              let _ ← stderr.restoring
              let _ ← stdout.restoring
              return (Except.error error : Except CaptureError (PerStream Scope))) = (do
              discard stderr.restore
              discard stdout.restore
              return Except.error error) :=
            perform_discard (Scope.perform_restoring _)
              (perform_discard (Scope.perform_restoring _) rfl)
          refine perform_bind rfl fun redirected => ?_
          cases redirected with
          | error error => exact undone _
          | ok done =>
              refine perform_bind rfl fun redirected => ?_
              cases redirected with
              | error error => exact undone _
              | ok done => rfl

theorem perform_starting (capture : Capture) : capture.starting.perform = capture.start := by
  unfold starting start
  split
  · rfl
  · refine perform_bind rfl fun outcome => ?_
    cases outcome with
    | error error => rfl
    | ok stdoutPipe =>
        refine perform_bind rfl fun outcome => ?_
        cases outcome with
        | error error => rfl
        | ok stderrPipe =>
            refine perform_bind (perform_redirectingBoth _) fun redirected => ?_
            cases redirected with
            | error error => rfl
            | ok scopes => exact capture.perform_startingReaders _

end

end Capture

/-! ## Uses of guards -/

namespace Suppressor

def discarding (stream : Stream) : Routine (Except OsError Scope) := do
  match ← Scope.saving stream with
  | .error error => return .error error
  | .ok scope =>
      match ← call SystemCall.openDiscard with
      | .error error =>
          let _ ← scope.restoring
          return .error error
      | .ok device =>
          match ← call (scope.redirectTo device) with
          | .error error =>
              call (SystemCall.close device)
              let _ ← scope.restoring
              return .error error
          | .ok () =>
              call (SystemCall.close device)
              return .ok scope

def engaging (stream : Stream) (wanted : Bool) : Routine Suppressor := do
  if !wanted then return inert stream
  else match ← discarding stream with
    | .ok scope => return { stream, scope := some scope, state := .engaged }
    | .error error =>
        call (Log.debug s!"leaving `{stream.name}` visible, couldn't suppress it: {error.message}")
        return inert stream

def restoring (suppressor : Suppressor) : Routine Suppressor := do
  match suppressor.scope with
  | none => return suppressor
  | some scope =>
      let _ ← scope.restoring
      return { suppressor with scope := none, state := .restored }

end Suppressor

namespace Scope

def redirectingToOpened (scope : Scope) (opening : Action (Except OsError Nat)) :
    Routine Unit := do
  match ← call opening with
  | .error _ => return ()
  | .ok number =>
      let _ ← call (scope.redirectTo number)
      call (SystemCall.close number)

def redirectingAt (scope : Scope) : Target → Routine Unit
  | .number number => do
      let _ ← call (scope.redirectTo number)
      return ()
  | .discardDevice => scope.redirectingToOpened SystemCall.openDiscard
  | .file path => scope.redirectingToOpened (SystemCall.openAppending path)

end Scope

namespace Guard

def finishing : Guard → Routine Guard
  | .suppressor guard => return .suppressor (← guard.restoring)
  | .scope guard => return .scope (← guard.restoring)
  | .capture guard => return .capture (← guard.stopping)

/-- Taking what was captured takes the same steps as dropping the capture. -/
def finishingBy (guard : Guard) : Finish → Routine (Option Guard)
  | .called => return some (← guard.finishing)
  | .dropped | .taken => do
      let _ ← guard.finishing
      return none

end Guard

/-- A use of guards, step by step.  Starting a program is one step. -/
def GuardUse.performing (guards : Guards) : GuardUse → Routine Guards
  | .suppress stream wanted => do
      let suppressor ← Suppressor.engaging stream wanted
      return guards ++ [some (.suppressor suppressor)]
  | .saveScope stream => do
      match ← Scope.saving stream with
      | .error _ => return guards
      | .ok scope => return guards ++ [some (.scope scope)]
  | .makeCapture nonblocking => return guards ++ [some (.capture { nonblocking })]
  | .start number => do
      match guards.guard? number with
      | some (.capture capture) =>
          let (_, capture) ← capture.starting
          return guards.set number (some (.capture capture))
      | _ => return guards
  | .redirect number target => do
      match guards.guard? number with
      | some (.scope scope) =>
          scope.redirectingAt target
          return guards
      | _ => return guards
  | .finish number how => do
      match guards.guard? number with
      | some guard => return guards.set number (← guard.finishingBy how)
      | none => return guards
  | .write stream bytes => do
      call (stream.write bytes)
      return guards
  | .child launcher invocation => do
      let _ ← call (Spawn.inheriting launcher invocation)
      return guards

namespace Guards

/-- Do one thing after the other, in any order. -/
def use (guards : Guards) : List GuardUse → Action Guards
  | [] => return guards
  | first :: rest => do (← first.perform guards).use rest

/-- The same, step by step. -/
def stepwise (guards : Guards) : List GuardUse → Routine Guards
  | [] => return guards
  | first :: rest => do (← first.performing guards).stepwise rest

end Guards

/-! ### Without interruption -/

section

open Routine (perform_bind perform_discard)

theorem Suppressor.perform_discarding (stream : Stream) :
    (discarding stream).perform = discardStream stream := by
  refine perform_bind (Scope.perform_saving _) fun saved => ?_
  cases saved with
  | error error => rfl
  | ok scope =>
      refine perform_bind rfl fun opened => ?_
      cases opened with
      | error error => exact perform_discard (Scope.perform_restoring _) rfl
      | ok device =>
          refine perform_bind rfl fun redirected => ?_
          cases redirected with
          | error error =>
              exact perform_bind rfl fun _ => perform_discard (Scope.perform_restoring _) rfl
          | ok done => rfl

theorem Suppressor.perform_engaging (stream : Stream) (wanted : Bool) :
    (engaging stream wanted).perform = engage stream wanted := by
  cases wanted with
  | false => rfl
  | true =>
      refine perform_bind (perform_discarding _) fun outcome => ?_
      cases outcome <;> rfl

theorem Suppressor.perform_restoring (suppressor : Suppressor) :
    suppressor.restoring.perform = suppressor.restore := by
  unfold restoring restore
  cases suppressor.scope with
  | none => rfl
  | some scope => exact perform_discard (Scope.perform_restoring _) rfl

theorem Scope.perform_redirectingToOpened (scope : Scope)
    (opening : Action (Except OsError Nat)) :
    (scope.redirectingToOpened opening).perform = scope.redirectToOpened opening := by
  refine perform_bind rfl fun opened => ?_
  cases opened <;> rfl

theorem Scope.perform_redirectingAt (scope : Scope) (target : Target) :
    (scope.redirectingAt target).perform = scope.redirectAt target := by
  cases target with
  | number number => rfl
  | discardDevice => exact scope.perform_redirectingToOpened _
  | file path => exact scope.perform_redirectingToOpened _

namespace Guard

theorem perform_finishing (guard : Guard) : guard.finishing.perform = guard.finish := by
  cases guard with
  | suppressor guard => exact perform_bind guard.perform_restoring fun _ => rfl
  | scope guard => exact perform_bind guard.perform_restoring fun _ => rfl
  | capture guard => exact perform_bind guard.perform_stopping fun _ => rfl

theorem perform_finishingBy (guard : Guard) (how : Finish) :
    (guard.finishingBy how).perform = guard.finishBy how := by
  cases how with
  | called => exact perform_bind guard.perform_finishing fun _ => rfl
  | dropped => exact perform_discard guard.perform_finishing rfl
  | taken =>
      cases guard with
      | suppressor guard => exact perform_discard (perform_finishing (.suppressor guard)) rfl
      | scope guard => exact perform_discard (perform_finishing (.scope guard)) rfl
      | capture guard => exact perform_discard (perform_finishing (.capture guard)) rfl

end Guard

theorem GuardUse.perform_performing (guards : Guards) (use : GuardUse) :
    (use.performing guards).perform = use.perform guards := by
  cases use with
  | suppress stream wanted => exact perform_bind (Suppressor.perform_engaging _ _) fun _ => rfl
  | saveScope stream =>
      refine perform_bind (Scope.perform_saving _) fun saved => ?_
      cases saved <;> rfl
  | makeCapture nonblocking => rfl
  | start number =>
      dsimp only [performing, perform]
      rcases guards.guard? number with _ | suppressor | scope | capture
      · rfl
      · rfl
      · rfl
      · exact perform_bind capture.perform_starting fun _ => rfl
  | redirect number target =>
      dsimp only [performing, perform]
      rcases guards.guard? number with _ | suppressor | scope | capture
      · rfl
      · rfl
      · exact perform_bind (scope.perform_redirectingAt target) fun _ => rfl
      · rfl
  | finish number how =>
      dsimp only [performing, perform]
      cases guards.guard? number with
      | none => rfl
      | some guard => exact perform_bind (guard.perform_finishingBy how) fun _ => rfl
  | write stream bytes => rfl
  | child launcher invocation => rfl

theorem Guards.perform_stepwise (guards : Guards) (uses : List GuardUse) :
    (guards.stepwise uses).perform = guards.use uses := by
  induction uses generalizing guards with
  | nil => rfl
  | cons first rest ih =>
      exact perform_bind (first.perform_performing guards) fun reached => ih reached

end

end CompileDriver
