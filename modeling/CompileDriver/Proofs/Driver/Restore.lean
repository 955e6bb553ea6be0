import CompileDriver.Host.Start
import CompileDriver.Proofs.Driver.Stretches

/-!
# Requests restore the streams

Whatever the calls on its session do to their own descriptors, and wherever a
request fails or panics, the numbers of the process refer to the same files after
the request as before it, and no reader thread is left.

A request goes through three frames: a plain one, one with a suppressor, and one
with a capture.
-/

namespace CompileDriver

open Function (update)

variable {σ : Type} {leaks : Nat → Prop}

/-! ## Three frames -/

/-- From open files `base` on, the session that held the numbers of `early` has
come to hold those of `mine`, and there are no other threads than those given. -/
structure Holding (leaks early : Nat → Prop) (base : OpenFiles) (threads : List (Nat × Nat))
    (mine : Nat → Prop) (host : Host) : Prop where
  keeps : Keeps leaks early mine base host.opened
  threads : host.threads ⊆ threads

/-- With a suppressor of standard error, which is inert or hides the stream. -/
def Hidden (leaks early : Nat → Prop) (base : OpenFiles) (threads : List (Nat × Nat))
    (suppressor : Suppressor) (mine : Nat → Prop) (host : Host) : Prop :=
  (suppressor = .inert .stderr ∧ Holding leaks early base threads mine host) ∨
    ∃ copy file opening, suppressor = .hiding .stderr copy ∧
      base Stream.stderr.number = some file ∧ base copy = none ∧
      Holding leaks early
        (update (update base copy (some file)) Stream.stderr.number (some (.discard opening)))
        threads mine host

/-- With a capture, which is not active or has a wiring in place. -/
def Captured (leaks early : Nat → Prop) (base : OpenFiles) (threads : List (Nat × Nat))
    (capture : Capture) (mine : Nat → Prop) (host : Host) : Prop :=
  (capture.taps = none ∧ Holding leaks early base threads mine host) ∨
    ∃ (wiring : Wiring) (readers : PerStream Nat) (middle : Nat → Prop) (started now : OpenFiles),
      capture.taps = some (wiring.taps (readers.map some)) ∧
      Keeps leaks early middle base started ∧ (∀ stream : Stream, ¬ middle stream.number) ∧
      wiring.Connects started now ∧
      Holding leaks middle now
        ((readers.stderr, wiring.sources.stderr) ::
          (readers.stdout, wiring.sources.stdout) :: threads) mine host

section

variable {early mine : Nat → Prop} {base : OpenFiles} {threads : List (Nat × Nat)}

theorem Holding.frame : Frame leaks (Holding leaks early base threads) where
  held holding := holding.keeps.held
  changes holding changes :=
    { keeps := holding.keeps.trans changes.keeps
      threads := List.Subset.trans changes.threads holding.threads }

theorem Hidden.frame (suppressor : Suppressor) :
    Frame leaks (Hidden leaks early base threads suppressor) where
  held hidden := by
    rcases hidden with ⟨-, holding⟩ | ⟨_, _, _, -, -, -, holding⟩
    · exact holding.keeps.held
    · exact holding.keeps.held
  changes hidden changes := by
    rcases hidden with ⟨inert, holding⟩ | ⟨copy, file, opening, engaged, found, isFree, holding⟩
    · exact .inl ⟨inert, Holding.frame.changes holding changes⟩
    · exact .inr ⟨copy, file, opening, engaged, found, isFree,
        Holding.frame.changes holding changes⟩

theorem Captured.frame (capture : Capture) :
    Frame leaks (Captured leaks early base threads capture) where
  held captured := by
    rcases captured with ⟨-, holding⟩ | ⟨_, _, _, _, _, -, -, -, -, holding⟩
    · exact holding.keeps.held
    · exact holding.keeps.held
  changes captured changes := by
    rcases captured with ⟨inactive, holding⟩ |
      ⟨wiring, readers, middle, started, now, active, keeps, streams, connects, holding⟩
    · exact .inl ⟨inactive, Holding.frame.changes holding changes⟩
    · exact .inr ⟨wiring, readers, middle, started, now, active, keeps, streams, connects,
        Holding.frame.changes holding changes⟩

namespace Ensures

theorem engageHidden (leaks : Nat → Prop) (wanted : Bool) :
    Ensures (Host.Shows base threads) (Suppressor.engage .stderr wanted) fun suppressor =>
      Hidden leaks (fun _ => False) base threads suppressor fun _ => False := by
  intro host shows
  have nothing (files : OpenFiles) : Keeps leaks (fun _ => False) (fun _ => False) files files :=
    .refl fun _ isHeld => isHeld.elim
  rcases engage .stderr wanted host shows with
    ⟨inert, shows⟩ | ⟨copy, file, opening, engaged, found, isFree, shows⟩
  · exact .inl ⟨inert, shows.files ▸ nothing _, shows.threads⟩
  · exact .inr ⟨copy, file, opening, engaged, found, isFree, shows.files ▸ nothing _, shows.threads⟩

/-- Restoring the suppressor leads back to the plain frame. -/
theorem restoreHidden {suppressor : Suppressor} (notMine : ¬ mine Stream.stderr.number) :
    Ensures (Hidden leaks (fun _ => False) base threads suppressor mine) suppressor.restore
      fun _ => Holding leaks (fun _ => False) base threads mine := by
  rintro host (⟨rfl, holding⟩ | ⟨copy, file, opening, rfl, found, isFree, holding⟩)
  · have shows := restoreSuppressor_inert .stderr host ⟨rfl, List.Subset.refl _⟩
    exact ⟨shows.files ▸ holding.keeps, List.Subset.trans shows.threads holding.threads⟩
  · obtain ⟨saved, keeps⟩ := Keeps.under_suppressor found isFree (fun _ isHeld => isHeld.elim)
      ⟨not_false, notMine⟩ holding.keeps
    have shows := restoreSuppressor .stderr saved host ⟨rfl, List.Subset.refl _⟩
    exact ⟨shows.files ▸ keeps, List.Subset.trans shows.threads holding.threads⟩

theorem startCaptured (driver : Driver σ) (notMine : ∀ stream : Stream, ¬ mine stream.number) :
    Ensures (Holding leaks early base threads mine) driver.startCapture fun outcome host =>
      Captured leaks early base threads outcome.2 mine host ∧
        (outcome.1 = false → outcome.2.taps = none) := by
  unfold Driver.startCapture
  dsimp only
  split
  · intro host holding
    let capture : Capture := { nonblocking := driver.nonblocking }
    have started : Started host.opened host.threads (capture.start host).1 (capture.start host).2 :=
      start rfl host ⟨rfl, List.Subset.refl _⟩
    rw [Action.bind_apply]
    rcases outcome : (capture.start host).1 with ⟨error | done, capture⟩
    · rw [outcome] at started
      obtain ⟨inactive, shows⟩ := started
      have shows := debug s!"running without capturing output: {error.message}" _ shows
      have threads := List.Subset.trans shows.threads holding.threads
      exact ⟨.inl ⟨inactive, shows.files ▸ holding.keeps, threads⟩, fun _ => inactive⟩
    · rw [outcome] at started
      obtain ⟨wiring, readers, pipes, now, active, connects, -, shows⟩ := started
      have held (number : Nat) (own : mine number) : now number ≠ none := by
        have used := holding.keeps.held number own
        rw [connects.others number (fun member => used (connects.isFree number member))]
        · exact used
        · rintro stream rfl
          exact notMine stream own
      have stretch : Keeps leaks mine mine now now := .refl held
      have grown := List.cons_subset_cons (readers.stderr, wiring.sources.stderr)
        (List.cons_subset_cons (readers.stdout, wiring.sources.stdout) holding.threads)
      exact ⟨.inr ⟨wiring, readers, mine, host.opened, now, active, holding.keeps, notMine,
        connects, shows.files ▸ stretch, List.Subset.trans shows.threads grown⟩, by simp⟩
  · exact .value fun host holding => ⟨.inl ⟨rfl, holding⟩, fun _ => rfl⟩

/-- Stopping the capture leads back to the plain frame. -/
theorem stopCaptured {capture : Capture} (notMine : ∀ stream : Stream, ¬ mine stream.number) :
    Ensures (Captured leaks early base threads capture mine) capture.stop
      fun _ => Holding leaks early base threads mine := by
  rintro host (⟨inactive, holding⟩ |
    ⟨wiring, readers, middle, started, now, active, keeps, streams, connects, holding⟩)
  · unfold Capture.stop
    rw [inactive]
    exact holding
  · obtain ⟨saved, stretch⟩ := Keeps.under_wiring connects keeps.held
      (fun stream => ⟨streams stream, notMine stream⟩) holding.keeps
    obtain ⟨-, shows⟩ := stop active connects.apart saved host ⟨rfl, holding.threads⟩
    refine ⟨keeps.trans (shows.files ▸ stretch), List.Subset.trans shows.threads ?_⟩
    exact Tap.joined_both _ _ _ _ _

/-- A request that has unwound or returned leaves everything in place. -/
theorem unwind {pre post : Host → Prop} (panic : Panic) {cleanup : Action Unit}
    (ensures : Ensures pre cleanup fun _ => post) :
    Ensures pre (Driver.unwind panic cleanup) fun ending host =>
      (∀ code, ending ≠ .exited code) → post host := by
  intro host holds
  simp only [Driver.unwind, Panic.raise, Action.bind_apply, Action.get_apply]
  cases host.panicHook with
  | unwind => exact fun _ => ensures host holds
  | crashReport => exact fun returned => absurd rfl (returned _)

end Ensures

/-! ## Requests -/

namespace Driver

variable {driver : Driver σ} {owns : σ → Nat → Prop}

/-- Unless the process has exited, nothing is held or left over. -/
def Cleared (leaks : Nat → Prop) (base : OpenFiles) (threads : List (Nat × Nat)) {ρ : Type}
    (reached : Ending BuildResult × ρ) (host : Host) : Prop :=
  (∀ code, reached.1 ≠ .exited code) →
    Holding leaks (fun _ => False) base threads (fun _ => False) host

theorem runPrepared_cleared (tidy : driver.toolchain.Tidy owns leaks) (settings : Settings)
    (arguments : List String) (session : σ) (timings : Timings) :
    Ensures (Holding leaks (fun _ => False) base threads (owns session))
      (driver.runPrepared settings arguments session timings) (Cleared leaks base threads) := by
  have notHeld (session : σ) (stream : Stream) : ¬ owns session stream.number :=
    (tidy.streams stream).2 session
  refine (Ensures.startCaptured driver (notHeld session)).bind ?_
  rintro ⟨capturing, capture⟩ host ⟨captured, inactive⟩
  have frame : Frame leaks (Captured leaks (fun _ => False) base threads capture) :=
    Captured.frame capture
  have running := frame.calling tidy session
    (.run (programArguments settings arguments) settings.libs)
  refine ((frame.course tidy).timed running "run" timings).bind (fun reached => ?_) host captured
  obtain ⟨ended, session, timings⟩ := reached
  -- what follows a call that returned, whatever the result
  have closing (result : BuildResult) :
      Ensures (Holding leaks (fun _ => False) base threads (owns session))
        (do reportTimings timings
            driver.toolchain.close session
            return (Ending.returned result, timings)) (Cleared leaks base threads) :=
    (Holding.frame.reportTimings timings).bind fun _ =>
      (Holding.frame.close tidy session).bind fun _ => .value fun _ holding _ => holding
  have collected (result : CapturedOutput → BuildResult) :
      Ensures
        (Captured leaks (fun _ => False) base threads capture (owns session))
        (do let output ← if capturing then capture.intoOutput else pure {}
            reportTimings timings
            driver.toolchain.close session
            return (Ending.returned (result output), timings)) (Cleared leaks base threads) := by
    dsimp only
    split
    · refine ((Ensures.stopCaptured (notHeld session)).bind fun stopped => ?_).bind fun output =>
        closing (result output)
      exact .value fun _ holding => holding
    · rename_i notCapturing
      refine Ensures.bind (.value fun host captured => ?_) fun output => closing (result output)
      rcases captured with ⟨-, holding⟩ | ⟨_, _, _, _, _, active, -⟩
      · exact holding
      · rw [inactive (by simpa using notCapturing)] at active
        cases active
  rcases ended with _ | error | panic
  · exact collected .ran
  · exact collected fun output => (BuildResult.failure error.message).withOutput output
  · have cleanup : Ensures (Captured leaks (fun _ => False) base threads capture (owns session))
        (do discard capture.stop
            driver.toolchain.close session)
        fun _ => Holding leaks (fun _ => False) base threads fun _ => False :=
      (Ensures.stopCaptured (notHeld session)).discarded.bind fun _ =>
        Holding.frame.close tidy session
    exact (Ensures.unwind panic cleanup).bind fun ending => .value fun _ cleared => cleared

/-- What is left to do for a request whose suppressor is still in place. -/
theorem closing_cleared (tidy : driver.toolchain.Tidy owns leaks) (suppressor : Suppressor)
    (session : σ) (timings : Timings) (result : BuildResult) :
    Ensures (Hidden leaks (fun _ => False) base threads suppressor (owns session))
      (do discard suppressor.restore
          reportTimings timings
          driver.toolchain.close session
          return (Ending.returned result, { driver with timings }))
      (Cleared leaks base threads) := by
  refine (Ensures.restoreHidden ((tidy.streams .stderr).2 session)).discarded.bind fun _ => ?_
  refine (Holding.frame.reportTimings timings).bind fun _ => ?_
  exact (Holding.frame.close tidy session).bind fun _ => .value fun _ holding _ => holding

/-- What is left to do for a request that unwinds while its suppressor is still
in place. -/
theorem unwinding_cleared (tidy : driver.toolchain.Tidy owns leaks) (suppressor : Suppressor)
    (session : σ) (timings : Timings) (panic : Panic) :
    Ensures (Hidden leaks (fun _ => False) base threads suppressor (owns session))
      (do let ending ← unwind panic do
            driver.toolchain.close session
            discard suppressor.restore
          return (ending, { driver with timings }))
      (Cleared leaks base threads) := by
  have frame : Frame leaks (Hidden leaks (fun _ => False) base threads suppressor) :=
    Hidden.frame suppressor
  have cleanup : Ensures (Hidden leaks (fun _ => False) base threads suppressor (owns session))
      (do driver.toolchain.close session
          discard suppressor.restore)
      fun _ => Holding leaks (fun _ => False) base threads fun _ => False :=
    (frame.close tidy session).bind fun _ => (Ensures.restoreHidden not_false).discarded
  exact (Ensures.unwind panic cleanup).bind fun ending => .value fun _ cleared => cleared

theorem beginning_cleared (tidy : driver.toolchain.Tidy owns leaks) (settings : Settings)
    {last : Driver σ} {next : Suppressor → σ → Action (Ending BuildResult × Driver σ)}
    (rest : ∀ suppressor session,
      Ensures (Hidden leaks (fun _ => False) base threads suppressor (owns session))
        (next suppressor session) (Cleared leaks base threads)) :
    Ensures (Host.Shows base threads)
      (driver.beginning settings (fun ending => (ending, last)) next)
      (Cleared leaks base threads) := by
  refine (Ensures.engageHidden leaks settings.quiet).bind fun suppressor => ?_
  refine ((Hidden.frame suppressor).create tidy settings).bind fun created => ?_
  rcases created with panic | session
  · have cleanup : Ensures (Hidden leaks (fun _ => False) base threads suppressor fun _ => False)
        (discard suppressor.restore) _ := (Ensures.restoreHidden not_false).discarded
    exact (Ensures.unwind panic cleanup).bind fun ending => .value fun _ cleared => cleared
  · exact rest suppressor session

theorem run_cleared (tidy : driver.toolchain.Tidy owns leaks) (settings : Settings)
    (arguments : List String) :
    Ensures (Host.Shows base threads) (driver.run settings arguments)
      (Cleared leaks base threads) := by
  refine beginning_cleared tidy settings fun suppressor session => ?_
  refine (((Hidden.frame suppressor).course tidy).prepare settings
    (fun _ => prepares_of_preparation) session).bind fun prepared => ?_
  rcases prepared with ⟨_ | error | panic, session, timings⟩
  · refine (Ensures.restoreHidden ((tidy.streams .stderr).2 session)).discarded.bind fun _ => ?_
    exact (runPrepared_cleared tidy settings arguments session timings).bind fun reached =>
      .value fun _ cleared => cleared
  · exact closing_cleared tidy suppressor session timings _
  · exact unwinding_cleared tidy suppressor session timings panic

theorem build_cleared (tidy : driver.toolchain.Tidy owns leaks) (settings : Settings)
    (output : Path) :
    Ensures (Host.Shows base threads) (driver.build settings output)
      (Cleared leaks base threads) := by
  refine beginning_cleared tidy settings fun suppressor session => ?_
  refine (((Hidden.frame suppressor).course tidy).link settings output
    (fun _ => prepares_of_preparation) rfl session).bind fun linked => ?_
  rcases linked with ⟨_ | error | panic, session, timings⟩
  · exact closing_cleared tidy suppressor session timings _
  · exact closing_cleared tidy suppressor session timings _
  · exact unwinding_cleared tidy suppressor session timings panic

/-- What a request leaves behind: the standard streams refer to the same files,
so does every other number that was open, no number is open that was free, unless
the toolchain has leaked it, and no reader thread is left that was not there
before. -/
structure Restored (leaks : Nat → Prop) (before after : Host) : Prop where
  streams : ∀ stream : Stream, after.opened stream.number = before.opened stream.number
  kept : ∀ number, before.opened number ≠ none → after.opened number = before.opened number
  closed : ∀ number, before.opened number = none → after.opened number ≠ none → leaks number
  threads : after.threads ⊆ before.threads

theorem Cleared.restored {ρ : Type} {before after : Host} {reached : Ending BuildResult × ρ}
    (cleared : Cleared leaks before.opened before.threads reached after)
    (notLeaked : ∀ stream : Stream, ¬ leaks stream.number)
    (ended : ∀ code, reached.1 ≠ .exited code) : Restored leaks before after := by
  obtain ⟨keeps, threads⟩ := cleared ended
  have closed (number : Nat) (wasFree : before.opened number = none)
      (used : after.opened number ≠ none) : leaks number := by
    rcases keeps.known number used with ⟨wasOpen, -⟩ | isHeld | leaked
    · exact absurd wasFree wasOpen
    · exact isHeld.elim
    · exact leaked
  have kept (number : Nat) (wasOpen : before.opened number ≠ none) :=
    keeps.kept number not_false wasOpen
  refine ⟨fun stream => ?_, kept, closed, threads⟩
  by_cases wasFree : before.opened stream.number = none
  · rw [wasFree]
    exact by_contra fun used => notLeaked stream (closed stream.number wasFree used)
  · exact kept stream.number wasFree

/-- Requests restore the descriptors of the process.  With a tidy toolchain a
request to run or to build a program that returns or unwinds leaves everything as
it was, wherever it failed. -/
theorem requests_restore_streams (driver : Driver σ) (tidy : driver.toolchain.Tidy owns leaks)
    (settings : Settings) (host : Host) :
    (∀ arguments, (∀ code, (driver.run settings arguments host).1.1 ≠ .exited code) →
      Restored leaks host (driver.run settings arguments host).2) ∧
      ∀ output, (∀ code, (driver.build settings output host).1.1 ≠ .exited code) →
        Restored leaks host (driver.build settings output host).2 := by
  have notLeaked (stream : Stream) := (tidy.streams stream).1
  have shown : host.Shows host.opened host.threads := ⟨rfl, List.Subset.refl _⟩
  constructor
  · intro arguments ended
    exact Cleared.restored (run_cleared tidy settings arguments host shown) notLeaked ended
  · intro output ended
    exact Cleared.restored (build_cleared tidy settings output host shown) notLeaked ended

/-- A script whose program writes half a line and panics. -/
def panickingRun : ToolchainScript :=
  { run := { actions := [.write .stdout (Bytes.ofText "half a"), .panic "broken"] } }

/-- A request that hides the diagnostics and whose program panics under the
capture unwinds, and everything is back in place. -/
theorem requests_restore_streams_panicking_run :
    let driver : Driver Unit := { toolchain := panickingRun.toolchain fun _ _ => .error .notFound }
    let settings : Settings := { argv0 := [], input := [], quiet := true }
    let host : Host := { table := .standard }
    (driver.run settings [] host).1.1 = .unwound { message := some "broken" } ∧
      Restored (fun _ => False) host (driver.run settings [] host).2 := by
  intro driver settings host
  have unwound : (driver.run settings [] host).1.1 = .unwound { message := some "broken" } := by
    decide +kernel
  have tidy := panickingRun.tidy fun _ _ => .error .notFound
  refine ⟨unwound, (requests_restore_streams driver tidy settings host).1 [] fun code exited => ?_⟩
  rw [unwound] at exited
  cases exited

end Driver

end

end CompileDriver
