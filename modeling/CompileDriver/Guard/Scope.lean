import CompileDriver.Host.StandardStream

/-!
# Redirection scopes

A scope owns a duplicate of the descriptor that a standard stream had when the
scope was made.  As long as it is active the stream can be pointed at other open
files; restoring points it back and closes the duplicate.  A scope restores at
most once, and dropping it restores it.

The stream is flushed before its descriptor changes, so that what was written
before the change still reaches the old target.
-/

namespace CompileDriver

/-- The saved target of a standard stream. -/
structure Scope where
  stream : Stream
  /-- The duplicate of the saved descriptor, until the scope is restored. -/
  saved : Option Nat
  deriving Repr, DecidableEq

namespace Scope

/-- Whether the scope still owns the saved descriptor. -/
def isActive (scope : Scope) : Bool :=
  scope.saved.isSome

/-- Flush a stream and save its descriptor. -/
def save (stream : Stream) : Action (Except OsError Scope) := do
  stream.flush
  match ← SystemCall.duplicate stream.number with
  | .error error => return .error error
  | .ok copy => return .ok { stream, saved := some copy }

/-- Point the stream at the open file of another number. -/
def redirectTo (scope : Scope) (number : Nat) : Action (Except OsError Unit) :=
  SystemCall.redirect number scope.stream.number

/-- Flush the stream, point it back at the saved target and close the
duplicate.  A scope that was restored before does nothing. -/
def restore (scope : Scope) : Action Scope := do
  match scope.saved with
  | none => return scope
  | some copy =>
      scope.stream.flush
      discard (SystemCall.giveBack copy scope.stream.number)
      SystemCall.close copy
      return { scope with saved := none }

end Scope

end CompileDriver
