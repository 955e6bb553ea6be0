import CompileDriver.Guard.Scope

/-!
# Suppressing a stream

A suppressor points a standard stream at the discard device until it is
restored or dropped.  When suppression is not asked for, or cannot be set up,
the suppressor is inert: the stream stays as it is.
-/

namespace CompileDriver

/-- The stages in the life of a suppressor. -/
inductive SuppressorState
  /-- The stream was never touched. -/
  | inert
  /-- The stream points at the discard device. -/
  | engaged
  /-- The stream was engaged and has been restored. -/
  | restored
  deriving Repr, DecidableEq

/-- A guard that hides what is written to a stream. -/
structure Suppressor where
  stream : Stream
  scope : Option Scope
  state : SuppressorState
  deriving Repr, DecidableEq

namespace Suppressor

/-- Whether the stream is being hidden. -/
def isEngaged (suppressor : Suppressor) : Bool :=
  suppressor.state = .engaged

/-- A suppressor that never touches its stream. -/
def inert (stream : Stream) : Suppressor :=
  { stream, scope := none, state := .inert }

/-- Save the target of a stream and point the stream at the discard device.
After a failure everything is as before. -/
def discardStream (stream : Stream) : Action (Except OsError Scope) := do
  match ← Scope.save stream with
  | .error error => return .error error
  | .ok scope =>
      match ← SystemCall.openDiscard with
      | .error error =>
          discard scope.restore
          return .error error
      | .ok device =>
          match ← scope.redirectTo device with
          | .error error =>
              SystemCall.close device
              discard scope.restore
              return .error error
          | .ok () =>
              SystemCall.close device
              return .ok scope

/-- Hide a stream when asked to. -/
def engage (stream : Stream) (wanted : Bool) : Action Suppressor := do
  if !wanted then return inert stream
  else match ← discardStream stream with
    | .ok scope => return { stream, scope := some scope, state := .engaged }
    | .error error =>
        Log.debug s!"leaving `{stream.name}` visible, couldn't suppress it: {error.message}"
        return inert stream

/-- Make the stream visible again.  Nothing happens unless the suppressor is
engaged. -/
def restore (suppressor : Suppressor) : Action Suppressor := do
  match suppressor.scope with
  | none => return suppressor
  | some scope =>
      discard scope.restore
      return { suppressor with scope := none, state := .restored }

end Suppressor

end CompileDriver
