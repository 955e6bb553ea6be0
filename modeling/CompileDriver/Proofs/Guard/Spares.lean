import CompileDriver.Proofs.Guard.Disciplined
import CompileDriver.Proofs.Host.StandardStream

/-!
# Guards spare the foreign numbers

Suppressors and captures only take steps of the process apart from the foreign
numbers.
-/

namespace CompileDriver

variable {foreign : Nat → Prop}

theorem Speaks.reportEarlyEnd (own : ∀ stream : Stream, ¬ foreign stream.number)
    (stream : Stream) (early : Option OsError) :
    Speaks foreign (Capture.reportEarlyEnd stream early) fun _ => True := by
  cases early with
  | none => exact .value trivial
  | some error => exact Speaks.debug own _

namespace Spares

variable (own : ∀ stream : Stream, ¬ foreign stream.number)

include own

theorem letsGuard : (sparing foreign).LetsGuard foreign where
  pipe := pipe
  duplicate := duplicate
  openDiscard := openDiscard
  redirect := redirect
  giveBack := giveBack
  close := close
  setPolling := setPolling
  startReader := startReader
  ask host thread := .single (.askToStop host thread)
  own := own
  flush stream := (Speaks.flush own stream).spares
  joinReader := joinReader
  reportEarlyEnd stream early := (Speaks.reportEarlyEnd own stream early).spares
  leaveVisible _ _ := (Speaks.debug own _).spares

/-! ## Scopes and suppressors -/

theorem save (stream : Stream) :
    Spares foreign (Scope.save stream) fun outcome =>
      ∀ scope, outcome = .ok scope → scope.Own foreign :=
  (letsGuard own).save stream

theorem restore {scope : Scope} (ownScope : scope.Own foreign) :
    Spares foreign scope.restore fun _ => True :=
  (letsGuard own).restore ownScope

theorem discardStream (stream : Stream) :
    Spares foreign (Suppressor.discardStream stream) fun outcome =>
      ∀ scope, outcome = .ok scope → scope.Own foreign :=
  (letsGuard own).discardStream stream

theorem engage (stream : Stream) (wanted : Bool) :
    Spares foreign (Suppressor.engage stream wanted) (Suppressor.Own foreign) :=
  (letsGuard own).engage stream wanted

theorem restoreSuppressor {suppressor : Suppressor} (ownSuppressor : suppressor.Own foreign) :
    Spares foreign suppressor.restore fun _ => True :=
  (letsGuard own).restoreSuppressor ownSuppressor

/-! ## Captures -/

theorem stop {capture : Capture} (ownCapture : capture.Own foreign) :
    Spares foreign capture.stop (Capture.Own foreign) :=
  (letsGuard own).stop ownCapture

theorem intoOutput {capture : Capture} (ownCapture : capture.Own foreign) :
    Spares foreign capture.intoOutput fun _ => True :=
  (letsGuard own).intoOutput ownCapture

theorem start {capture : Capture} (ownCapture : capture.Own foreign) :
    Spares foreign capture.start fun outcome => outcome.2.Own foreign :=
  (letsGuard own).start ownCapture

end Spares

end CompileDriver
