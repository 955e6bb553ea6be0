import CompileDriver.Proofs.Driver.Abreast

/-!
# Captured texts side by side

What a capture holds in the end is what was delivered to the streams during the call that ran
the program, and what the process still held back then.  Two toolchains that behave alike have
the same delivered and held back, so that their requests end in the same way, captured texts
and all, on hosts that are ready for captures.
-/

namespace CompileDriver

variable {σ τ : Type} {leaks : Nat → Prop} {owns : σ → Nat → Prop}

/-- While a capture is active the streams take what is written. -/
theorem Host.Tapping.takes {plumbing : Plumbing} {started host : Host} {taken : Stream → Bytes}
    (tapping : Host.Tapping plumbing started taken host) : host.Takes := by
  intro stream
  have found : host.opened stream.number = _ := tapping.feeding.file?_stream stream
  simp only [OpenFiles.Takes, found]
  exact ⟨_, (tapping.feeding.carries stream).source⟩

/-- The host is ready for captures: it is fit, the streams are open, and standard output is no
pipe that nobody reads. -/
structure Host.Ready (host : Host) : Prop extends host.Fit where
  isOpen : ∀ stream : Stream, host.opened stream.number ≠ none
  accepts : host.table.accepts Stream.stdout.number = true

namespace Driver

/-! ## One request -/

section

variable {driver : Driver σ} {settings : Settings} {before : Host} {session : σ}
  {timings : Timings} {prepared : Host}

/-- A request whose program is prepared returns only if the call does that runs it. -/
theorem returns_of_returned {arguments : List String} {result : BuildResult}
    (succeeded : driver.preparing settings before = (.ok (session, timings), prepared))
    (returned : (driver.run settings arguments before).1.1 = .returned result) :
    (driver.answer settings arguments session prepared).1.1.returns = true := by
  obtain ⟨later, ran, -⟩ := running_apply driver settings arguments session timings prepared
  rw [(run_of_prepared arguments succeeded).1, ran] at returned
  cases ended : (driver.answer settings arguments session prepared).1.1 with
  | panicked panic =>
      rw [ended] at returned
      exact absurd returned unwind_ne_returned
  | _ => rfl

/-- The capture is started exactly if programs are captured and it can be. -/
theorem startCapture_iff (driver : Driver σ) (host : Host) :
    (driver.startCapture host).1.1 = true ↔ driver.Captures host := by
  unfold startCapture Captures
  cases driver.capturing with
  | false => simp
  | true =>
      simp only [if_true, Action.bind_apply]
      rcases ({ nonblocking := driver.nonblocking } : Capture).start host with
        ⟨⟨error | done, active⟩, started⟩
      · simp
      · simp

/-- A request that does not capture its program has no texts. -/
theorem texts_of_not_captures {arguments : List String} {result : BuildResult}
    (succeeded : driver.preparing settings before = (.ok (session, timings), prepared))
    (notCapturing : (driver.startCapture prepared).1.1 = false)
    (returned : (driver.run settings arguments before).1.1 = .returned result) :
    result.stdout = "" ∧ result.stderr = "" := by
  have returns := returns_of_returned succeeded returned
  obtain ⟨last, isLast, stdout, stderr⟩ := run_of_returns arguments succeeded returns
  obtain rfl := Ending.returned.inj (returned.symm.trans isLast)
  rw [notCapturing] at stdout stderr
  exact ⟨stdout, stderr⟩

/-- What a request says that has captured its program. -/
structure Conveys (driver : Driver σ) (settings : Settings) (arguments : List String)
    (before : Host) (session : σ) (prepared : Host) : Prop where
  takes : (driver.calledOn settings arguments prepared).Takes
  clear : (driver.calledOn settings arguments prepared).lineBuffer = []
  /-- The texts are what is delivered during the call and what is held back after it. -/
  result : ∀ result, (driver.run settings arguments before).1.1 = .returned result →
    result.stdout = Utf8.lossy
        ((driver.answer settings arguments session prepared).2.deliveredSince
          (driver.calledOn settings arguments prepared) Stream.stdout.number ++
            (driver.answer settings arguments session prepared).2.lineBuffer) ∧
      result.stderr = Utf8.lossy
        ((driver.answer settings arguments session prepared).2.deliveredSince
          (driver.calledOn settings arguments prepared) Stream.stderr.number)

theorem conveys_of_captures (tidy : driver.toolchain.Tidy owns leaks)
    (accountable : driver.toolchain.Accountable owns) (arguments : List String)
    (ready : before.Ready)
    (succeeded : driver.preparing settings before = (.ok (session, timings), prepared))
    (captures : driver.Captures prepared) :
    driver.Conveys settings arguments before session prepared := by
  obtain ⟨holding, preparedFit⟩ := prepared_fit settings tidy accountable ready.toFit session
    timings (congrArg Prod.fst succeeded)
  rw [succeeded] at holding preparedFit
  have kept (number : Nat) (used : before.opened number ≠ none) :
      prepared.opened number = before.opened number :=
    holding.keeps.kept number not_false used
  obtain ⟨files, clear⟩ := preparedFit.wellFormed.clear fun stream =>
    (kept _ (ready.isOpen stream)).symm ▸ ready.isOpen stream
  obtain ⟨active, started, threads, same, begun⟩ :=
    begun_of_captures preparedFit captures clear.streams
  obtain ⟨pieces, deeds⟩ := accountable.call session (runCall settings arguments)
    (driver.calledOn settings arguments prepared)
  have ledger := ledger_of_begun tidy holding.keeps.held same begun deeds
  have flushes : prepared.CanFlush :=
    .inr (DescriptorTable.accepts_kept ready.accepts (ready.isOpen .stdout) kept)
  have tapped := tapping_of_begun tidy holding.keeps.held same begun settings arguments
  refine ⟨tapped.takes, ?_, fun result returned => ?_⟩
  · rw [calledOn, same]
    exact (congrFun (begun.clear.heldBack begun.active.lineBuffer) .stdout).trans
      (flushes.unflushed .stdout)
  · have returns := returns_of_returned succeeded returned
    obtain ⟨-, -, idles⟩ := running_apply driver settings arguments session timings prepared
    obtain ⟨now, ⟨tapping, countedNow⟩, -⟩ :=
      (counting_of_begun tidy holding.keeps.held same begun settings arguments).idles ledger idles
    obtain ⟨taken, ⟨-, counted⟩, -⟩ := ledger
    have sameTaken (stream : Stream) : now stream = taken stream := by
      rw [← countedNow.delivered, (counted.mute idles.mute).delivered]
    have captured (stream : Stream) : (active.stop
        (driver.running settings arguments session timings prepared).2).1.captured.get stream =
          (driver.answer settings arguments session prepared).2.deliveredSince
            (driver.calledOn settings arguments prepared) stream.number ++
              (driver.answer settings arguments session prepared).2.heldBack stream := by
      rw [Capture.stop_collects begun.active.taps begun.connects.apart tapping,
        captured_of_begun begun, List.nil_append, sameTaken, ← counted.delivered,
        idles.mute.heldBack]
    obtain ⟨last, isLast, stdout, stderr⟩ := returns_captured arguments succeeded same returns
    obtain rfl := Ending.returned.inj (returned.symm.trans isLast)
    refine ⟨stdout.trans (congrArg Utf8.lossy (captured .stdout)), ?_⟩
    rw [stderr]
    exact congrArg Utf8.lossy ((captured .stderr).trans (List.append_nil _))

end

/-! ## Two requests -/

/-- Endings that are the same but for captured texts are the same if the texts are. -/
theorem eq_of_silenced {ending twin : Ending BuildResult} (same : silenced ending = silenced twin)
    (texts : ∀ result other, ending = .returned result → twin = .returned other →
      result.stdout = other.stdout ∧ result.stderr = other.stderr) : ending = twin := by
  cases ending with
  | unwound panic =>
      cases twin with
      | unwound other => exact same
      | _ => cases same
  | exited code =>
      cases twin with
      | exited other => exact same
      | _ => cases same
  | returned result =>
      cases twin with
      | returned other =>
          obtain ⟨stdout, stderr⟩ := texts result other rfl rfl
          obtain ⟨status, error, _, _, path⟩ := result
          obtain ⟨_, _, _, _, _⟩ := other
          cases Ending.returned.inj same
          cases stdout
          cases stderr
          rfl
      | _ => cases same

section

variable {world : Host → Host → Prop} (enduring : Host.Enduring world) {same : σ → τ → Prop}
  {driver : Driver σ} {twin : Driver τ}
  (behaves : driver.toolchain.BehavesLike twin.toolchain world same)
  (discreet : driver.toolchain.Discreet) (discreetTwin : twin.toolchain.Discreet)
  (sameCapturing : driver.capturing = twin.capturing)
  (sameNonblocking : driver.nonblocking = twin.nonblocking)

include enduring sameCapturing sameNonblocking

/-- On prepared hosts that are paired the calls that run the programs are made on akin hosts,
both under a capture or none of them. -/
theorem called_alike (settings : Settings) (arguments : List String)
    {start startTwin prepared preparedTwin : Host}
    (paired : Host.Paired world start startTwin prepared preparedTwin) :
    (driver.startCapture prepared).1.1 = (twin.startCapture preparedTwin).1.1 ∧
      Host.Akin world (driver.calledOn settings arguments prepared)
        (twin.calledOn settings arguments preparedTwin) := by
  obtain ⟨started, sameStart, -⟩ :=
    Abreast.startCapture enduring sameCapturing sameNonblocking prepared preparedTwin paired
  exact ⟨sameStart, (started.note enduring _).akin⟩

variable {leaksTwin : Nat → Prop} {ownsTwin : τ → Nat → Prop}
  (tidy : driver.toolchain.Tidy owns leaks) (tidyTwin : twin.toolchain.Tidy ownsTwin leaksTwin)
  (accountable : driver.toolchain.Accountable owns)
  (accountableTwin : twin.toolchain.Accountable ownsTwin)
  {before beforeTwin : Host} (akin : Host.Akin world before beforeTwin) (ready : before.Ready)
  (readyTwin : beforeTwin.Ready)

include behaves discreet discreetTwin tidy tidyTwin accountable accountableTwin akin ready
  readyTwin

/-- Requests to run a program end in the same way, with the same captured texts. -/
theorem runs_end_alike (settings : Settings) (arguments : List String) :
    (driver.run settings arguments before).1.1 = (twin.run settings arguments beforeTwin).1.1 := by
  have paired := Host.Paired.initially akin
  obtain ⟨-, endsLike⟩ := Abreast.run enduring behaves discreet discreetTwin sameCapturing
    sameNonblocking settings arguments before beforeTwin paired
  apply eq_of_silenced endsLike.ending
  intro result other returned returnedTwin
  obtain ⟨preparedPaired, prepares⟩ :=
    Abreast.preparing enduring behaves discreet discreetTwin settings before beforeTwin paired
  rcases reached : driver.preparing settings before with ⟨outcome, prepared⟩
  rcases reachedTwin : twin.preparing settings beforeTwin with ⟨outcomeTwin, preparedTwin⟩
  rw [reached, reachedTwin] at preparedPaired prepares
  cases prepares with
  | ended names =>
      rw [run_eq, Action.bind_apply, reached] at returned
      rw [run_eq, Action.bind_apply, reachedTwin] at returnedTwin
      obtain rfl := Ending.returned.inj (returned.symm.trans returnedTwin)
      exact ⟨rfl, rfl⟩
  | @ready session otherSession timings timingsTwin sameSession names =>
      obtain ⟨sameStart, called⟩ := called_alike enduring sameCapturing sameNonblocking settings
        arguments preparedPaired
      cases capturing : (driver.startCapture prepared).1.1 with
      | false =>
          obtain ⟨stdout, stderr⟩ := texts_of_not_captures reached capturing returned
          obtain ⟨stdoutTwin, stderrTwin⟩ :=
            texts_of_not_captures reachedTwin (sameStart.symm.trans capturing) returnedTwin
          exact ⟨stdout.trans stdoutTwin.symm, stderr.trans stderrTwin.symm⟩
      | true =>
          have captures := (startCapture_iff driver prepared).mp capturing
          have capturesTwin := (startCapture_iff twin preparedTwin).mp (sameStart ▸ capturing)
          have conveys := conveys_of_captures tidy accountable arguments ready reached captures
          have conveysTwin := conveys_of_captures tidyTwin accountableTwin arguments readyTwin
            reachedTwin capturesTwin
          obtain ⟨stdout, stderr⟩ := conveys.result result returned
          obtain ⟨stdoutTwin, stderrTwin⟩ := conveysTwin.result other returnedTwin
          obtain ⟨held, delivered⟩ := behaves.output session otherSession
            (programArguments settings arguments) settings.libs sameSession _ _ called
            conveys.takes conveysTwin.takes (conveys.clear.trans conveysTwin.clear.symm)
          have heldAlike : (driver.answer settings arguments session prepared).2.lineBuffer =
              (twin.answer settings arguments otherSession preparedTwin).2.lineBuffer := held
          have deliveredAlike (stream : Stream) :
              (driver.answer settings arguments session prepared).2.deliveredSince
                  (driver.calledOn settings arguments prepared) stream.number =
                (twin.answer settings arguments otherSession preparedTwin).2.deliveredSince
                  (twin.calledOn settings arguments preparedTwin) stream.number :=
            delivered stream
          rw [stdout, stderr, stdoutTwin, stderrTwin, heldAlike, deliveredAlike, deliveredAlike]
          exact ⟨rfl, rfl⟩

end

end Driver

end CompileDriver
