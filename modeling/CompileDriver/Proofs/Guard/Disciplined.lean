import CompileDriver.Guard.Capture
import CompileDriver.Guard.Suppressor
import CompileDriver.Proofs.Action

/-!
# What guards do

Guards go through the same motions whatever is asked of them: they acquire descriptors, point
streams elsewhere, and undo both in the opposite order.  So whatever discipline allows the single
calls governs the guards.

A discipline may depend on numbers that are foreign to the process.  The descriptors that guards
keep are never foreign, because they were free when the guard took them.
-/

namespace CompileDriver

/-! ## Numbers that guards keep -/

/-- The number that a scope keeps is not foreign. -/
def Scope.Own (foreign : Nat → Prop) (scope : Scope) : Prop :=
  ∀ copy, scope.saved = some copy → ¬ foreign copy

/-- The numbers that a suppressor keeps are not foreign. -/
def Suppressor.Own (foreign : Nat → Prop) (suppressor : Suppressor) : Prop :=
  ∀ scope, suppressor.scope = some scope → scope.Own foreign

/-- The numbers that a tap keeps are not foreign. -/
structure Tap.Own (foreign : Nat → Prop) (tap : Tap) : Prop where
  scope : tap.scope.Own foreign
  writer : ¬ foreign tap.writer
  source : ¬ foreign tap.source

/-- The numbers that a capture keeps are not foreign. -/
def Capture.Own (foreign : Nat → Prop) (capture : Capture) : Prop :=
  ∀ taps, capture.taps = some taps → ∀ stream, (taps.get stream).Own foreign

/-- Every number is the guard's own when none is foreign. -/
theorem Scope.own_none (scope : Scope) : scope.Own fun _ => False :=
  fun _ _ => not_false

theorem Suppressor.own_none (suppressor : Suppressor) : suppressor.Own fun _ => False :=
  fun scope _ => scope.own_none

theorem Capture.own_none (capture : Capture) : capture.Own fun _ => False :=
  fun _ _ _ => ⟨Scope.own_none _, not_false, not_false⟩

namespace Discipline

variable {discipline : Discipline} {foreign : Nat → Prop}

/-! ## Descriptors and readers -/

/-- A discipline that allows guards to acquire descriptors and to give them back, and to set up
readers. -/
structure LetsAcquire (discipline : Discipline) (foreign : Nat → Prop) : Prop where
  pipe : discipline.Governs SystemCall.pipe fun outcome =>
    ∀ ends, outcome = .ok ends → ¬ foreign ends.1 ∧ ¬ foreign ends.2
  duplicate : ∀ {number}, ¬ foreign number →
    discipline.Governs (SystemCall.duplicate number) fun outcome =>
      ∀ copy, outcome = .ok copy → ¬ foreign copy
  openDiscard : discipline.Governs SystemCall.openDiscard fun outcome =>
    ∀ device, outcome = .ok device → ¬ foreign device
  redirect : ∀ {source target}, ¬ foreign source → ¬ foreign target →
    discipline.Governs (SystemCall.redirect source target) fun _ => True
  giveBack : ∀ {saved target}, ¬ foreign saved → ¬ foreign target →
    discipline.Governs (SystemCall.giveBack saved target) fun _ => True
  close : ∀ {number}, ¬ foreign number →
    discipline.Governs (SystemCall.close number) fun _ => True
  setPolling : ∀ source, discipline.Governs (SystemCall.setPolling source) fun _ => True
  startReader : ∀ source, discipline.Governs (SystemCall.startReader source) fun _ => True
  ask : ∀ (host : Host) thread, discipline.allows host (host.askToStop thread)

namespace LetsAcquire

/-- A discipline that knows no foreign numbers only has to allow the calls. -/
theorem of_calls (pipe : discipline.Governs SystemCall.pipe fun _ => True)
    (duplicate : ∀ number, discipline.Governs (SystemCall.duplicate number) fun _ => True)
    (openDiscard : discipline.Governs SystemCall.openDiscard fun _ => True)
    (redirect : ∀ source target,
      discipline.Governs (SystemCall.redirect source target) fun _ => True)
    (giveBack : ∀ saved target,
      discipline.Governs (SystemCall.giveBack saved target) fun _ => True)
    (close : ∀ number, discipline.Governs (SystemCall.close number) fun _ => True)
    (setPolling : ∀ source, discipline.Governs (SystemCall.setPolling source) fun _ => True)
    (startReader : ∀ source, discipline.Governs (SystemCall.startReader source) fun _ => True)
    (ask : ∀ (host : Host) thread, discipline.allows host (host.askToStop thread)) :
    discipline.LetsAcquire fun _ => False where
  pipe := pipe.weaken fun _ _ _ _ => ⟨not_false, not_false⟩
  duplicate _ := (duplicate _).weaken fun _ _ _ _ => not_false
  openDiscard := openDiscard.weaken fun _ _ _ _ => not_false
  redirect _ _ := redirect _ _
  giveBack _ _ := giveBack _ _
  close _ := close _
  setPolling := setPolling
  startReader := startReader
  ask := ask

/-- What a stricter discipline allows, a laxer one allows too. -/
theorem relax {strict : Discipline} (letsAcquire : strict.LetsAcquire foreign)
    (needs : ∀ host, discipline.needs host → strict.needs host)
    (allows : ∀ before after, strict.allows before after → discipline.allows before after) :
    discipline.LetsAcquire foreign where
  pipe := letsAcquire.pipe.relax needs allows
  duplicate own := (letsAcquire.duplicate own).relax needs allows
  openDiscard := letsAcquire.openDiscard.relax needs allows
  redirect ownSource ownTarget := (letsAcquire.redirect ownSource ownTarget).relax needs allows
  giveBack ownSaved ownTarget := (letsAcquire.giveBack ownSaved ownTarget).relax needs allows
  close own := (letsAcquire.close own).relax needs allows
  setPolling source := (letsAcquire.setPolling source).relax needs allows
  startReader source := (letsAcquire.startReader source).relax needs allows
  ask host thread := allows _ _ (letsAcquire.ask host thread)

variable (letsAcquire : discipline.LetsAcquire foreign)

include letsAcquire

theorem closePipe {ends : Nat × Nat} (ownEnds : ¬ foreign ends.1 ∧ ¬ foreign ends.2) :
    discipline.Governs (Capture.closePipe ends) fun _ => True :=
  (letsAcquire.close ownEnds.1).bind fun _ _ => letsAcquire.close ownEnds.2

theorem askToStop (tap : Tap) : discipline.Governs (Capture.askToStop tap) fun _ => True := by
  unfold Capture.askToStop
  split
  · exact .value trivial
  · exact .changed fun host => letsAcquire.ask host _

theorem startTap (tap : Tap) (nonblocking : Bool) :
    discipline.Governs (Capture.startTap tap nonblocking) fun _ => True := by
  cases nonblocking with
  | false => exact letsAcquire.startReader tap.source
  | true =>
      apply (letsAcquire.setPolling tap.source).bind
      intro switched _
      cases switched with
      | error error => exact .value trivial
      | ok done => exact letsAcquire.startReader tap.source

end LetsAcquire

/-- Whoever may wait for readers may do so for the reader of a tap. -/
theorem Governs.joinTap
    (joins : ∀ thread, discipline.Governs (SystemCall.joinReader thread) fun _ => True)
    (tap : Tap) :
    discipline.Governs (Capture.joinTap tap) fun _ => True := by
  unfold Capture.joinTap
  split
  · exact .value trivial
  · refine (joins _).bind fun reader _ => ?_
    split
    · exact .value trivial
    · split <;> exact .value trivial

/-! ## Scopes -/

/-- A discipline that allows guards to point the streams elsewhere. -/
structure LetsDivert (discipline : Discipline) (foreign : Nat → Prop) : Prop
    extends discipline.LetsAcquire foreign where
  own : ∀ stream : Stream, ¬ foreign stream.number
  flush : ∀ stream : Stream, discipline.Governs stream.flush fun _ => True

namespace LetsDivert

variable (letsDivert : discipline.LetsDivert foreign)

include letsDivert

theorem save (stream : Stream) :
    discipline.Governs (Scope.save stream) fun outcome =>
      ∀ scope, outcome = .ok scope → scope.Own foreign := by
  refine (letsDivert.flush stream).bind fun _ _ => ?_
  refine (letsDivert.duplicate (letsDivert.own stream)).bind fun outcome known => ?_
  cases outcome with
  | error error => exact .value (by simp)
  | ok copy =>
      refine .value ?_
      rintro _ ⟨⟩ number ⟨⟩
      exact known copy rfl

theorem redirectTo (scope : Scope) {number : Nat} (ownNumber : ¬ foreign number) :
    discipline.Governs (scope.redirectTo number) fun _ => True :=
  letsDivert.redirect ownNumber (letsDivert.own scope.stream)

theorem restore {scope : Scope} (ownScope : scope.Own foreign) :
    discipline.Governs scope.restore fun _ => True := by
  unfold Scope.restore
  split
  · exact .value trivial
  · rename_i copy saved
    have ownCopy := ownScope copy saved
    refine (letsDivert.flush scope.stream).bind fun _ _ => ?_
    refine (letsDivert.giveBack ownCopy (letsDivert.own scope.stream)).discarded.bind fun _ _ => ?_
    exact (letsDivert.close ownCopy).bind fun _ _ => .value trivial

theorem redirectBoth {writers : PerStream Nat}
    (ownWriters : ∀ stream, ¬ foreign (writers.get stream)) :
    discipline.Governs (Capture.redirectBoth writers) fun outcome =>
      ∀ scopes, outcome = .ok scopes → ∀ stream, (scopes.get stream).Own foreign := by
  refine (letsDivert.save .stdout).bind fun first ownStdout => ?_
  cases first with
  | error error => exact .value (by simp)
  | ok stdout =>
      replace ownStdout := ownStdout stdout rfl
      refine (letsDivert.save .stderr).bind fun second ownStderr => ?_
      cases second with
      | error error =>
          exact (letsDivert.restore ownStdout).discarded.bind fun _ _ => .value (by simp)
      | ok stderr =>
          replace ownStderr := ownStderr stderr rfl
          have failed (error : CaptureError) : discipline.Governs
              (do discard stderr.restore
                  discard stdout.restore
                  return Except.error error)
              fun outcome : Except CaptureError (PerStream Scope) =>
                ∀ scopes, outcome = .ok scopes → ∀ stream, (scopes.get stream).Own foreign := by
            refine (letsDivert.restore ownStderr).discarded.bind fun _ _ => ?_
            exact (letsDivert.restore ownStdout).discarded.bind fun _ _ => .value (by simp)
          refine (letsDivert.redirectTo stdout (ownWriters .stdout)).bind fun first _ => ?_
          cases first with
          | error error => exact failed _
          | ok value =>
              refine (letsDivert.redirectTo stderr (ownWriters .stderr)).bind fun second _ => ?_
              cases second with
              | error error => exact failed _
              | ok value =>
                  refine .value ?_
                  rintro _ ⟨⟩ (_ | _)
                  · exact ownStdout
                  · exact ownStderr

/-! ## Suppressors -/

theorem discardStream (stream : Stream) :
    discipline.Governs (Suppressor.discardStream stream) fun outcome =>
      ∀ scope, outcome = .ok scope → scope.Own foreign := by
  refine (letsDivert.save stream).bind fun saved ownScope => ?_
  cases saved with
  | error error => exact .value (by simp)
  | ok scope =>
      replace ownScope := ownScope scope rfl
      refine letsDivert.openDiscard.bind fun opened ownDevice => ?_
      cases opened with
      | error error =>
          exact (letsDivert.restore ownScope).discarded.bind fun _ _ => .value (by simp)
      | ok device =>
          replace ownDevice := ownDevice device rfl
          refine (letsDivert.redirectTo scope ownDevice).bind fun redirected _ => ?_
          cases redirected with
          | error error =>
              refine (letsDivert.close ownDevice).bind fun _ _ => ?_
              exact (letsDivert.restore ownScope).discarded.bind fun _ _ => .value (by simp)
          | ok value =>
              refine (letsDivert.close ownDevice).bind fun _ _ => .value ?_
              rintro _ ⟨⟩
              exact ownScope

theorem restoreSuppressor {suppressor : Suppressor} (ownSuppressor : suppressor.Own foreign) :
    discipline.Governs suppressor.restore fun _ => True := by
  unfold Suppressor.restore
  split
  · exact .value trivial
  · rename_i scope engaged
    exact (letsDivert.restore (ownSuppressor scope engaged)).discarded.bind fun _ _ =>
      .value trivial

end LetsDivert

/-! ## Captures -/

/-- A discipline that allows all that guards do, what they log included. -/
structure LetsGuard (discipline : Discipline) (foreign : Nat → Prop) : Prop
    extends discipline.LetsDivert foreign where
  joinReader : ∀ thread, discipline.Governs (SystemCall.joinReader thread) fun _ => True
  reportEarlyEnd : ∀ stream early,
    discipline.Governs (Capture.reportEarlyEnd stream early) fun _ => True
  leaveVisible : ∀ (stream : Stream) (error : OsError), discipline.Governs
    (Log.debug s!"leaving `{stream.name}` visible, couldn't suppress it: {error.message}")
    fun _ => True

namespace LetsGuard

variable (letsGuard : discipline.LetsGuard foreign)

include letsGuard

theorem engage (stream : Stream) (wanted : Bool) :
    discipline.Governs (Suppressor.engage stream wanted) (Suppressor.Own foreign) := by
  have inert : (Suppressor.inert stream).Own foreign := by
    rintro scope ⟨⟩
  unfold Suppressor.engage
  split
  · exact .value inert
  · refine (letsGuard.discardStream stream).bind fun outcome ownScope => ?_
    cases outcome with
    | ok scope =>
        refine .value ?_
        rintro _ ⟨⟩
        exact ownScope scope rfl
    | error error =>
        exact (letsGuard.leaveVisible stream error).bind fun _ _ => .value inert

theorem joinTap (tap : Tap) : discipline.Governs (Capture.joinTap tap) fun _ => True :=
  .joinTap letsGuard.joinReader tap

theorem stop {capture : Capture} (ownCapture : capture.Own foreign) :
    discipline.Governs capture.stop (Capture.Own foreign) := by
  unfold Capture.stop
  split
  · exact .value ownCapture
  · rename_i taps active
    have ownStdout : taps.stdout.Own foreign := ownCapture taps active .stdout
    have ownStderr : taps.stderr.Own foreign := ownCapture taps active .stderr
    refine (letsGuard.askToStop _).bind fun _ _ => ?_
    refine (letsGuard.askToStop _).bind fun _ _ => ?_
    refine (letsGuard.restore ownStdout.scope).discarded.bind fun _ _ => ?_
    refine (letsGuard.restore ownStderr.scope).discarded.bind fun _ _ => ?_
    refine (letsGuard.close ownStdout.writer).bind fun _ _ => ?_
    refine (letsGuard.close ownStderr.writer).bind fun _ _ => ?_
    refine (letsGuard.joinTap _).bind fun _ _ => ?_
    refine (letsGuard.joinTap _).bind fun _ _ => ?_
    refine (letsGuard.close ownStdout.source).bind fun _ _ => ?_
    refine (letsGuard.close ownStderr.source).bind fun _ _ => ?_
    refine (letsGuard.reportEarlyEnd .stdout _).bind fun _ _ => ?_
    refine (letsGuard.reportEarlyEnd .stderr _).bind fun _ _ => .value ?_
    rintro _ ⟨⟩

theorem intoOutput {capture : Capture} (ownCapture : capture.Own foreign) :
    discipline.Governs capture.intoOutput fun _ => True :=
  (letsGuard.stop ownCapture).bind fun _ _ => .value trivial

theorem startReaders {capture : Capture} {taps : PerStream Tap}
    (ownTaps : ∀ stream, (taps.get stream).Own foreign) :
    discipline.Governs (capture.startReaders taps) fun outcome => outcome.2.Own foreign := by
  have owned (taps : PerStream Tap) (ownTaps : ∀ stream, (taps.get stream).Own foreign) :
      ({ capture with taps := some taps } : Capture).Own foreign := by
    rintro _ ⟨⟩
    exact ownTaps
  have stopped (taps : PerStream Tap) (ownTaps : ∀ stream, (taps.get stream).Own foreign)
      (error : CaptureError) : discipline.Governs
      (do let stopped ← ({ capture with taps := some taps } : Capture).stop
          return (Except.error error, stopped))
      fun outcome : Except CaptureError Unit × Capture => outcome.2.Own foreign :=
    (letsGuard.stop (owned taps ownTaps)).bind fun _ ownStopped => .value ownStopped
  have threaded (taps : PerStream Tap) (ownTaps : ∀ stream, (taps.get stream).Own foreign)
      (first second : Option Nat) (stream : Stream) :
      (PerStream.get
        { stdout := { taps.stdout with thread := first }
          stderr := { taps.stderr with thread := second } } stream).Own foreign := by
    cases stream with
    | stdout => exact ⟨(ownTaps .stdout).scope, (ownTaps .stdout).writer, (ownTaps .stdout).source⟩
    | stderr => exact ⟨(ownTaps .stderr).scope, (ownTaps .stderr).writer, (ownTaps .stderr).source⟩
  refine (letsGuard.startTap _ _).bind fun first _ => ?_
  cases first with
  | error error => exact stopped taps ownTaps _
  | ok first =>
      refine (letsGuard.startTap _ _).bind fun second _ => ?_
      cases second with
      | error error => exact stopped _ (threaded taps ownTaps (some first) taps.stderr.thread) _
      | ok second => exact .value (owned _ (threaded taps ownTaps (some first) (some second)))

theorem start {capture : Capture} (ownCapture : capture.Own foreign) :
    discipline.Governs capture.start fun outcome => outcome.2.Own foreign := by
  unfold Capture.start
  split
  · exact .value ownCapture
  · refine letsGuard.pipe.bind fun first ownFirst => ?_
    cases first with
    | error error => exact .value ownCapture
    | ok stdoutPipe =>
        replace ownFirst := ownFirst stdoutPipe rfl
        refine letsGuard.pipe.bind fun second ownSecond => ?_
        cases second with
        | error error => exact (letsGuard.closePipe ownFirst).bind fun _ _ => .value ownCapture
        | ok stderrPipe =>
            replace ownSecond := ownSecond stderrPipe rfl
            have ownWriters (stream : Stream) : ¬ foreign
                (PerStream.get { stdout := stdoutPipe.2, stderr := stderrPipe.2 } stream) := by
              cases stream with
              | stdout => exact ownFirst.2
              | stderr => exact ownSecond.2
            refine (letsGuard.redirectBoth ownWriters).bind fun redirected ownScopes => ?_
            cases redirected with
            | error error =>
                refine (letsGuard.closePipe ownSecond).bind fun _ _ => ?_
                exact (letsGuard.closePipe ownFirst).bind fun _ _ => .value ownCapture
            | ok scopes =>
                refine letsGuard.startReaders ?_
                rintro (_ | _)
                · exact ⟨ownScopes scopes rfl .stdout, ownFirst.2, ownFirst.1⟩
                · exact ⟨ownScopes scopes rfl .stderr, ownSecond.2, ownSecond.1⟩

end LetsGuard

end Discipline

end CompileDriver
