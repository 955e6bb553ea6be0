import CompileDriver.Guard.Capture
import CompileDriver.Guard.Suppressor
import CompileDriver.Host.Spawn
import CompileDriver.Proofs.Host.Opened

/-!
# Using guards

What a process can do with any number of guards.  The guards are numbered in the
order in which they are made; a guard that was dropped leaves its number behind.

A run is well-nested when only the guard that was acquired last is ended.  Guards
that are not active may be ended again at any time, which does nothing, and scopes
are redirected only while they are active.

Beside the guards a `Nest` records, for the sake of statements about runs, which
guards are active, what the numbers referred to when each of them was acquired,
and what they referred to before it was ended and afterwards.
-/

namespace CompileDriver

/-- A guard of one of the three kinds. -/
inductive Guard
  | suppressor (suppressor : Suppressor)
  | scope (scope : Scope)
  | capture (capture : Capture)

/-- How a guard is ended. -/
inductive Finish
  /-- By its own operation, after which it can be used again. -/
  | called
  /-- By dropping it. -/
  | dropped
  /-- By taking what it has captured. -/
  | taken
  deriving DecidableEq

namespace Guard

/-- Whether a guard has something to give back. -/
def isActive : Guard → Bool
  | .suppressor guard => guard.isEngaged
  | .scope guard => guard.isActive
  | .capture guard => guard.isActive

/-- The streams whose files a guard has saved. -/
def saved : Guard → List Stream
  | .suppressor guard => if guard.isEngaged then [guard.stream] else []
  | .scope guard => if guard.isActive then [guard.stream] else []
  | .capture guard => if guard.isActive then [.stdout, .stderr] else []

/-- Restore the stream of a guard, or stop the capture. -/
def finish : Guard → Action Guard
  | .suppressor guard => return .suppressor (← guard.restore)
  | .scope guard => return .scope (← guard.restore)
  | .capture guard => return .capture (← guard.stop)

/-- End a guard; the guard itself, when it is still there.  Only captures have
something to take. -/
def finishBy (guard : Guard) : Finish → Action (Option Guard)
  | .called => return some (← guard.finish)
  | .dropped => do
      discard guard.finish
      return none
  | .taken =>
      match guard with
      | .capture guard => do
          discard guard.intoOutput
          return none
      | _ => do
          discard guard.finish
          return none

end Guard

/-- What a scope can be pointed at. -/
inductive Target
  /-- The open file of a number. -/
  | number (number : Nat)
  /-- The discard device, which is opened for this and closed again. -/
  | discardDevice
  /-- A file, which is opened for appending and closed again. -/
  | file (path : Path)

namespace Scope

/-- Point a scope at a file that is opened for this and closed again. -/
def redirectToOpened (scope : Scope) (opening : Action (Except OsError Nat)) : Action Unit := do
  match ← opening with
  | .error _ => return ()
  | .ok number =>
      discard (scope.redirectTo number)
      SystemCall.close number

/-- Point a scope at a target. -/
def redirectAt (scope : Scope) : Target → Action Unit
  | .number number => discard (scope.redirectTo number)
  | .discardDevice => scope.redirectToOpened SystemCall.openDiscard
  | .file path => scope.redirectToOpened (SystemCall.openAppending path)

end Scope

/-- The guards by number. -/
abbrev Guards := List (Option Guard)

namespace Guards

/-- The guard of a number. -/
def guard? (guards : Guards) (number : Nat) : Option Guard :=
  guards[number]?.join

/-- Whether the guard of a number is active. -/
def isActive (guards : Guards) (number : Nat) : Bool :=
  (guards.guard? number).any Guard.isActive

/-- The streams whose files the guard of a number has saved. -/
def saved (guards : Guards) (number : Nat) : List Stream :=
  ((guards.guard? number).map Guard.saved).getD []

/-- Whether all guards have ended. -/
def allEnded (guards : Guards) : Bool :=
  guards.all fun guard => !guard.any Guard.isActive

end Guards

/-- One thing that a process does. -/
inductive GuardUse
  | suppress (stream : Stream) (wanted : Bool)
  | saveScope (stream : Stream)
  | makeCapture (nonblocking : Bool)
  | start (guard : Nat)
  | redirect (guard : Nat) (target : Target)
  | finish (guard : Nat) (how : Finish)
  | write (stream : Stream) (bytes : Bytes)
  /-- Run a program that inherits the streams. -/
  | child (launcher : Launcher) (invocation : Invocation)

namespace GuardUse

/-- Do it.  A guard that could not be made gets no number, and nothing happens
when there is no guard of the kind. -/
def perform (guards : Guards) : GuardUse → Action Guards
  | .suppress stream wanted => do
      let suppressor ← Suppressor.engage stream wanted
      return guards ++ [some (.suppressor suppressor)]
  | .saveScope stream => do
      match ← Scope.save stream with
      | .error _ => return guards
      | .ok scope => return guards ++ [some (.scope scope)]
  | .makeCapture nonblocking => return guards ++ [some (.capture { nonblocking })]
  | .start number => do
      match guards.guard? number with
      | some (.capture capture) =>
          let (_, capture) ← capture.start
          return guards.set number (some (.capture capture))
      | _ => return guards
  | .redirect number target => do
      match guards.guard? number with
      | some (.scope scope) =>
          scope.redirectAt target
          return guards
      | _ => return guards
  | .finish number how => do
      match guards.guard? number with
      | some guard => return guards.set number (← guard.finishBy how)
      | none => return guards
  | .write stream bytes => do
      stream.write bytes
      return guards
  | .child launcher invocation => do
      discard (Spawn.inheriting launcher invocation)
      return guards

/-- The number of the guard that may be acquired or ended. -/
def subject? (guards : Guards) : GuardUse → Option Nat
  | .suppress _ _ | .saveScope _ => some guards.length
  | .start number | .finish number _ => some number
  | .makeCapture _ | .redirect _ _ | .write _ _ | .child _ _ => none

end GuardUse

/-- What is known of an active guard. -/
structure Held where
  guard : Nat
  /-- What the numbers referred to before the guard was acquired. -/
  made : OpenFiles
  /-- The streams whose files the guard has saved. -/
  saved : List Stream
  /-- The streams that older scopes have pointed elsewhere since, past this guard. -/
  moved : List Stream

/-- What is known of a guard that has ended. -/
structure Ended extends Held where
  /-- What the numbers referred to before the guard was ended. -/
  found : OpenFiles
  /-- What the numbers referred to when the guard had ended. -/
  left : OpenFiles

/-- Note that a stream was pointed elsewhere.  The newest guard that has saved the stream will
point it back, so that only the guards above that one are passed. -/
def Held.move (stream : Stream) : List Held → List Held
  | [] => []
  | held :: older =>
      if stream ∈ held.saved then held :: older
      else { held with moved := stream :: held.moved } :: move stream older

/-- The guards, with a record of what became of them. -/
structure Nest where
  guards : Guards := []
  /-- The active guards, the one that was acquired last first. -/
  held : List Held := []
  ended : List Ended := []

namespace Nest

/-- Record that a guard has become active or has ended. -/
def track (nest : Nest) (number : Nat) (guards : Guards) (before after : OpenFiles) : Nest :=
  match nest.guards.isActive number, guards.isActive number, nest.held with
  | false, true, held =>
      { nest with
        guards
        held := { guard := number, made := before, saved := guards.saved number, moved := [] } ::
          held }
  | true, false, last :: older =>
      { guards
        held := older
        ended := { last with found := before, left := after } :: nest.ended }
  | _, _, _ => { nest with guards }

/-- Record what has been done. -/
def record (nest : Nest) (use : GuardUse) (guards : Guards) (before after : OpenFiles) : Nest :=
  match use.subject? nest.guards, use with
  | some number, _ => nest.track number guards before after
  | none, .redirect number _ =>
      match nest.guards.guard? number with
      | some (.scope scope) =>
          if after scope.stream.number = before scope.stream.number then { nest with guards }
          else { nest with guards, held := Held.move scope.stream nest.held }
      | _ => { nest with guards }
  | none, _ => { nest with guards }

/-- Do something, and record it. -/
def step (nest : Nest) (use : GuardUse) : Action Nest := do
  let before ← get
  let guards ← use.perform nest.guards
  let after ← get
  return nest.record use guards before.opened after.opened

/-- Do one thing after the other. -/
def run (nest : Nest) (uses : List GuardUse) : Action Nest :=
  uses.foldlM step nest

/-- Whether a use keeps the order: an active guard is ended only when no other one
was acquired after it, and only active scopes are redirected. -/
def allows (nest : Nest) : GuardUse → Bool
  | .finish number _ =>
      nest.guards.isActive number → (nest.held.head?.map Held.guard) = some number
  | .redirect number _ => nest.guards.isActive number
  | _ => true

/-- Whether all uses keep the order. -/
def isNested (nest : Nest) (host : Host) : List GuardUse → Bool
  | [] => true
  | use :: rest =>
      nest.allows use &&
        let (next, later) := nest.step use host
        next.isNested later rest

end Nest

end CompileDriver
