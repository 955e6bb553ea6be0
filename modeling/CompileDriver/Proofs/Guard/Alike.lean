import CompileDriver.Proofs.Guard.Spares
import CompileDriver.Proofs.Host.Alike

/-!
# Guards on hosts that look alike

A suppressor and a capture do the same on hosts that look alike: they keep the same numbers,
fail with the same errors and leave hosts that look alike.  Only the threads of the readers
and what these have read can differ.
-/

namespace CompileDriver

/-- The taps differ in their threads at most. -/
structure Tap.Resembles (tap twin : Tap) : Prop where
  scope : tap.scope = twin.scope
  writer : tap.writer = twin.writer
  source : tap.source = twin.source

/-- The captures differ in their threads and in what they have captured at most. -/
structure Capture.Resembles (capture twin : Capture) : Prop where
  nonblocking : capture.nonblocking = twin.nonblocking
  taps : Option.Rel (fun taps others => ∀ stream, (taps.get stream).Resembles (others.get stream))
    capture.taps twin.taps

namespace Abreast

open Host

theorem flush (stream : Stream) : Abreast Alike stream.flush stream.flush fun _ _ => True :=
  speaking (.flush (fun _ => not_false) stream) (.flush (fun _ => not_false) stream)

theorem debug (message twin : String) :
    Abreast Alike (Log.debug message) (Log.debug twin) fun _ _ => True :=
  speaking (.debug (fun _ => not_false) message) (.debug (fun _ => not_false) twin)

/-! ## Scopes and suppressors -/

theorem save (stream : Stream) :
    Abreast Alike (Scope.save stream) (Scope.save stream) (SameOutcome Eq) := by
  apply (flush stream).bind
  intro _ _ _
  apply (duplicate stream.number).bind
  rintro _ _ (error | rfl)
  · exact .value (.error error)
  · exact .value (.ok rfl)

theorem redirectTo (scope : Scope) (number : Nat) :
    Abreast Alike (scope.redirectTo number) (scope.redirectTo number) (SameOutcome Eq) :=
  redirect number scope.stream.number

theorem restore (scope : Scope) : Abreast Alike scope.restore scope.restore Eq := by
  unfold Scope.restore
  split
  · exact .value rfl
  · apply (flush scope.stream).bind
    intro _ _ _
    apply (giveBack _ scope.stream.number).discarded.bind
    intro _ _ _
    exact (close _).bind fun _ _ _ => .value rfl

theorem discardStream (stream : Stream) :
    Abreast Alike (Suppressor.discardStream stream) (Suppressor.discardStream stream)
      (SameOutcome Eq) := by
  apply (save stream).bind
  rintro _ _ (error | @⟨scope, _, rfl⟩)
  · exact .value (.error error)
  · apply openDiscard.bind
    rintro _ _ (error | @⟨device, _, rfl⟩)
    · exact (restore scope).discarded.bind fun _ _ _ => .value (.error error)
    · apply (redirectTo scope device).bind
      rintro _ _ (error | _)
      · apply (close device).bind
        intro _ _ _
        exact (restore scope).discarded.bind fun _ _ _ => .value (.error error)
      · exact (close device).bind fun _ _ _ => .value (.ok rfl)

theorem engage (stream : Stream) (wanted : Bool) :
    Abreast Alike (Suppressor.engage stream wanted) (Suppressor.engage stream wanted) Eq := by
  cases wanted with
  | false => exact .value rfl
  | true =>
      apply (discardStream stream).bind
      rintro _ _ (error | rfl)
      · exact (debug _ _).bind fun _ _ _ => .value rfl
      · exact .value rfl

theorem restoreSuppressor (suppressor : Suppressor) :
    Abreast Alike suppressor.restore suppressor.restore Eq := by
  unfold Suppressor.restore
  split
  · exact .value rfl
  · exact (restore _).discarded.bind fun _ _ _ => .value rfl

/-! ## Captures -/

theorem closePipe (ends : Nat × Nat) :
    Abreast Alike (Capture.closePipe ends) (Capture.closePipe ends) Eq :=
  (close ends.1).bind fun _ _ _ => close ends.2

theorem askToStop (tap twin : Tap) :
    Abreast Alike (Capture.askToStop tap) (Capture.askToStop twin) fun _ _ => True := by
  have asked (tap : Tap) : unseen.Governs (Capture.askToStop tap) fun _ => True := by
    unfold Capture.askToStop
    split
    · exact .value trivial
    · exact .changed fun host => rfl
  exact apart (asked tap) (asked twin)

theorem joinTap (tap twin : Tap) :
    Abreast Alike (Capture.joinTap tap) (Capture.joinTap twin) fun _ _ => True := by
  have joined (tap : Tap) : unseen.Governs (Capture.joinTap tap) fun _ => True := by
    unfold Capture.joinTap
    split
    · exact .value trivial
    · apply (unseen_joinReader _).bind
      intro reader _
      split
      · exact .value trivial
      · split <;> exact .value trivial
  exact apart (joined tap) (joined twin)

theorem reportEarlyEnd (stream : Stream) (early twin : Option OsError) :
    Abreast Alike (Capture.reportEarlyEnd stream early) (Capture.reportEarlyEnd stream twin)
      fun _ _ => True :=
  speaking (.reportEarlyEnd (fun _ => not_false) stream early)
    (.reportEarlyEnd (fun _ => not_false) stream twin)

theorem stop {capture twin : Capture} (resembles : capture.Resembles twin) :
    Abreast Alike capture.stop twin.stop Capture.Resembles := by
  obtain ⟨captured, taps, nonblocking⟩ := capture
  obtain ⟨capturedTwin, others, _⟩ := twin
  obtain ⟨rfl, same⟩ := resembles
  cases same with
  | none => exact .value ⟨rfl, .none⟩
  | @some taps others same =>
      obtain ⟨⟨scope, writer, source, _⟩, ⟨scopeTwo, writerTwo, sourceTwo, _⟩⟩ := taps
      obtain ⟨⟨_, _, _, _⟩, ⟨_, _, _, _⟩⟩ := others
      obtain ⟨rfl, rfl, rfl⟩ := same .stdout
      obtain ⟨rfl, rfl, rfl⟩ := same .stderr
      apply (askToStop _ _).bind
      intro _ _ _
      apply (askToStop _ _).bind
      intro _ _ _
      apply (restore scope).discarded.bind
      intro _ _ _
      apply (restore scopeTwo).discarded.bind
      intro _ _ _
      apply (close writer).bind
      intro _ _ _
      apply (close writerTwo).bind
      intro _ _ _
      apply (joinTap _ _).bind
      intro _ _ _
      apply (joinTap _ _).bind
      intro _ _ _
      apply (close source).bind
      intro _ _ _
      apply (close sourceTwo).bind
      intro _ _ _
      apply (reportEarlyEnd .stdout _ _).bind
      intro _ _ _
      apply (reportEarlyEnd .stderr _ _).bind
      intro _ _ _
      exact .value ⟨rfl, .none⟩

theorem intoOutput {capture twin : Capture} (resembles : capture.Resembles twin) :
    Abreast Alike capture.intoOutput twin.intoOutput fun _ _ => True :=
  (stop resembles).bind fun _ _ _ => .value trivial

theorem startTap {tap twin : Tap} (same : tap.source = twin.source) (nonblocking : Bool) :
    Abreast Alike (Capture.startTap tap nonblocking) (Capture.startTap twin nonblocking)
      (SameOutcome fun _ _ => True) := by
  unfold Capture.startTap
  rw [same]
  cases nonblocking with
  | false => exact startReader twin.source
  | true =>
      apply (setPolling twin.source).bind
      rintro _ _ (error | _)
      · exact .value (.error error)
      · exact startReader twin.source

theorem startReaders {capture twin : Capture} (same : capture.nonblocking = twin.nonblocking)
    {taps others : PerStream Tap}
    (resembles : ∀ stream, (taps.get stream).Resembles (others.get stream)) :
    Abreast Alike (capture.startReaders taps) (twin.startReaders others) fun started other =>
      started.1 = other.1 ∧ started.2.Resembles other.2 := by
  have stdout : taps.stdout.Resembles others.stdout := resembles .stdout
  have stderr : taps.stderr.Resembles others.stderr := resembles .stderr
  have failed {taps others : PerStream Tap}
      (resembles : ∀ stream, (taps.get stream).Resembles (others.get stream))
      (error : CaptureError) :
      Abreast Alike
        (do let stopped ← ({ capture with taps := some taps } : Capture).stop
            return ((Except.error error : Except CaptureError Unit), stopped))
        (do let stopped ← ({ twin with taps := some others } : Capture).stop
            return ((Except.error error : Except CaptureError Unit), stopped))
        fun started other => started.1 = other.1 ∧ started.2.Resembles other.2 := by
    have active : Capture.Resembles { capture with taps := some taps }
        { twin with taps := some others } := ⟨same, .some resembles⟩
    exact (stop active).bind fun _ _ stopped => .value ⟨rfl, stopped⟩
  have starting (tap twinTap : Tap) (sameSource : tap.source = twinTap.source) :
      Abreast Alike (Capture.startTap tap capture.nonblocking)
        (Capture.startTap twinTap twin.nonblocking) (SameOutcome fun _ _ => True) :=
    same ▸ startTap sameSource capture.nonblocking
  apply (starting _ _ stdout.source).bind
  rintro _ _ (error | @⟨first, firstTwin, _⟩)
  · exact failed resembles _
  · have half (stream : Stream) :
        (PerStream.get { taps with stdout := { taps.stdout with thread := some first } }
          stream).Resembles
        (PerStream.get { others with stdout := { others.stdout with thread := some firstTwin } }
          stream) := by
      cases stream with
      | stdout => exact ⟨stdout.scope, stdout.writer, stdout.source⟩
      | stderr => exact stderr
    apply (starting _ _ stderr.source).bind
    rintro _ _ (error | @⟨second, secondTwin, _⟩)
    · exact failed half _
    · refine .value ⟨rfl, same, .some fun stream => ?_⟩
      cases stream with
      | stdout => exact half .stdout
      | stderr => exact ⟨stderr.scope, stderr.writer, stderr.source⟩

theorem redirectBoth (writers : PerStream Nat) :
    Abreast Alike (Capture.redirectBoth writers) (Capture.redirectBoth writers)
      (SameOutcome Eq) := by
  apply (save .stdout).bind
  rintro _ _ (error | @⟨stdout, _, rfl⟩)
  · exact .value (.error _)
  · apply (save .stderr).bind
    rintro _ _ (error | @⟨stderr, _, rfl⟩)
    · exact (restore stdout).discarded.bind fun _ _ _ => .value (.error _)
    · have failed (error : CaptureError) :
          Abreast Alike
            (do discard stderr.restore
                discard stdout.restore
                return Except.error error)
            (do discard stderr.restore
                discard stdout.restore
                return Except.error error) (SameOutcome (α := PerStream Scope) Eq) := by
        apply (restore stderr).discarded.bind
        intro _ _ _
        exact (restore stdout).discarded.bind fun _ _ _ => .value (.error error)
      apply (redirectTo stdout writers.stdout).bind
      rintro _ _ (error | _)
      · exact failed _
      · apply (redirectTo stderr writers.stderr).bind
        rintro _ _ (error | _)
        · exact failed _
        · exact .value (.ok rfl)

theorem start {capture twin : Capture} (resembles : capture.Resembles twin) :
    Abreast Alike capture.start twin.start fun started other =>
      started.1 = other.1 ∧ started.2.Resembles other.2 := by
  have sameActivity : capture.isActive = twin.isActive := by
    obtain ⟨_, taps, _⟩ := capture
    obtain ⟨_, others, _⟩ := twin
    cases resembles.taps <;> rfl
  unfold Capture.start
  rw [sameActivity]
  split
  · exact .value ⟨rfl, resembles⟩
  · apply pipe.bind
    rintro _ _ (error | @⟨stdout, _, rfl⟩)
    · exact .value ⟨rfl, resembles⟩
    · apply pipe.bind
      rintro _ _ (error | @⟨stderr, _, rfl⟩)
      · exact (closePipe stdout).bind fun _ _ _ => .value ⟨rfl, resembles⟩
      · apply (redirectBoth _).bind
        rintro _ _ (error | @⟨scopes, _, rfl⟩)
        · apply (closePipe stderr).bind
          intro _ _ _
          exact (closePipe stdout).bind fun _ _ _ => .value ⟨rfl, resembles⟩
        · exact startReaders resembles.nonblocking fun
            | .stdout => ⟨rfl, rfl, rfl⟩
            | .stderr => ⟨rfl, rfl, rfl⟩

end Abreast

end CompileDriver
