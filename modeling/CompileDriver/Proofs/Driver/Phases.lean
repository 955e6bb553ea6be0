import CompileDriver.Proofs.Driver.Restore
import CompileDriver.Proofs.Driver.Stretches

/-!
# What the streams are in each phase

Every call on a session notes the descriptor table that it finds.  `Saw` says of a
stretch of the history what all calls in it found.  Up to the call that runs the
program, standard output is the original one and standard error is hidden exactly if
that was asked for and could be done; the call that runs the program finds both
streams captured, or both of them as they were.
-/

namespace CompileDriver

open Function (update)

variable {σ : Type} {leaks : Nat → Prop} {owns : σ → Nat → Prop}

/-! ## What the calls find -/

namespace Host

/-- The history has grown, and all calls that were made in between found open files
of the given kind. -/
structure Saw (finds : SessionCall → OpenFiles → Prop) (before after : Host) : Prop where
  grown : before.journal <:+ after.journal
  calls : ∀ moment ∈ after.historySince before, ∀ call, moment.call? = some call →
    finds call moment.table.file?

namespace Saw

variable {finds : SessionCall → OpenFiles → Prop} {first second third : Host}

theorem trans (start : Saw finds first second) (rest : Saw finds second third) :
    Saw finds first third where
  grown := start.grown.trans rest.grown
  calls moment member := by
    rw [historySince_trans start.grown rest.grown, List.mem_append] at member
    rcases member with early | late
    · exact start.calls moment early
    · exact rest.calls moment late

/-- Nothing is called in a quiet stretch. -/
theorem of_quiet (quiet : Quiet first second) : Saw finds first second := by
  obtain ⟨moments, grown, routine⟩ := quiet
  refine ⟨⟨moments, grown.symm⟩, ?_⟩
  intro moment member call called
  rw [historySince_of_journal grown, List.mem_reverse] at member
  have silent := routine moment member
  unfold Moment.call? at called
  split at called
  · simp_all [Event.isRoutine]
  · cases called

theorem of_silent {α : Type} {action : Action α} {yields : α → Prop}
    (silent : Silent action yields) (host : Host) : Saw finds host (action host).2 :=
  of_quiet (silent host trivial).1

theorem note (host : Host) {event : Event}
    (found : ∀ call, event = .sessionCall call → finds call host.opened) :
    Saw finds host (host.note event) := by
  have grown : (host.note event).journal = [{ event, table := host.table }] ++ host.journal := rfl
  refine ⟨⟨_, grown.symm⟩, ?_⟩
  intro moment member call called
  rw [historySince_of_journal grown] at member
  obtain rfl := List.mem_singleton.mp member
  cases event with
  | sessionCall other =>
      cases called
      exact found call rfl
  | _ => cases called

end Saw

end Host

namespace Host.Saw

variable {finds : SessionCall → OpenFiles → Prop} {toolchain : Toolchain σ}

theorem returned (call : SessionCall) (ended : CallEnd) (host : Host) :
    host.Saw finds (Driver.returned call ended host).2 := by
  cases ended with
  | succeeded => exact note host nofun
  | failed error => exact note host nofun
  | panicked panic => exact of_quiet (.refl host)

/-- A call finds what there is when it is made. -/
theorem calling (discreet : toolchain.Discreet) (session : σ) {call : SessionCall} {host : Host}
    (found : finds call host.opened) :
    host.Saw finds (Driver.calling call (toolchain.perform session call) host).2 := by
  have noted : host.Saw finds (host.note (.sessionCall call)) := by
    apply note host
    rintro other ⟨⟩
    exact found
  have performed := discreet.call session call
  exact noted.trans ((of_silent performed _).trans (returned call _ _))

/-- So does a phase that makes one call. -/
theorem timed (name : String) (timings : Timings) {phase : Action (CallEnd × σ)} {host : Host}
    (saw : host.Saw finds (phase host).2) :
    host.Saw finds (Driver.timed name timings phase host).2 := by
  obtain ⟨later, measurements, same⟩ := Driver.timed_apply name timings phase host
  rw [same]
  exact saw.trans (of_quiet (.of_journal rfl))

theorem create (discreet : toolchain.Discreet) (settings : Settings) {host : Host}
    (found : finds (.create settings.optimisation) host.opened) :
    host.Saw finds (Driver.create toolchain settings host).2 := by
  have noted : host.Saw finds (host.note (.sessionCall (.create settings.optimisation))) := by
    apply note host
    rintro other ⟨⟩
    exact found
  have created := discreet.create settings
  apply noted.trans ((of_silent created _).trans _)
  rw [Driver.create, Action.bind_apply, Action.modify_apply, Action.bind_apply]
  cases (toolchain.createSession settings
    (host.note (.sessionCall (.create settings.optimisation)))).1 with
  | error panic => exact of_quiet (.refl _)
  | ok session => exact returned _ .succeeded _

end Host.Saw

/-! ## The streams of each phase -/

/-- The streams write to two pipes of their own, whose other ends the capture
reads. -/
def Capture.Diverts (capture : Capture) (files : OpenFiles) : Prop :=
  ∃ (taps : PerStream Tap) (pipes : PerStream Nat),
    capture.taps = some taps ∧ pipes.stdout ≠ pipes.stderr ∧
    ∀ stream : Stream, files stream.number = some (.pipeWriter (pipes.get stream)) ∧
      files (taps.get stream).writer = some (.pipeWriter (pipes.get stream)) ∧
      files (taps.get stream).source = some (.pipeReader (pipes.get stream))

namespace Driver

/-- The diagnostics are to be hidden, and on this host they can be. -/
def Hides (settings : Settings) (host : Host) : Prop :=
  settings.quiet = true ∧ ∃ scope, (Suppressor.discardStream .stderr host).1 = .ok scope

/-- The streams while the program is prepared or written out: standard output is the
original one, standard error is the discard device or the original one. -/
structure SeesPreparation (settings : Settings) (before : Host) (files : OpenFiles) : Prop where
  stdout : files Stream.stdout.number = before.opened Stream.stdout.number
  hidden : Hides settings before →
    ∃ opening, files Stream.stderr.number = some (.discard opening)
  shown : ¬ Hides settings before →
    files Stream.stderr.number = before.opened Stream.stderr.number

/-- Programs are captured, and on this host the capture starts. -/
def Captures (driver : Driver σ) (host : Host) : Prop :=
  driver.capturing = true ∧
    (({ nonblocking := driver.nonblocking } : Capture).start host).1.1 = .ok ()

/-- The streams while the program runs: both of them write to pipes of the capture,
or both of them are the original ones. -/
structure SeesRun (driver : Driver σ) (before prepared : Host) (files : OpenFiles) : Prop where
  captured : driver.Captures prepared →
    (({ nonblocking := driver.nonblocking } : Capture).start prepared).1.2.Diverts files
  visible : ¬ driver.Captures prepared →
    ∀ stream : Stream, files stream.number = before.opened stream.number

/-- What the calls of a request find.  The call that runs the program is made right
after the start of the capture on the host where everything is prepared. -/
def Finds (driver : Driver σ) (settings : Settings) (before : Host) :
    SessionCall → OpenFiles → Prop
  | .run _ _, files => ∃ session timings prepared,
      driver.preparing settings before = (.ok (session, timings), prepared) ∧
        files = (driver.startCapture prepared).2.opened ∧ SeesRun driver before prepared files
  | _, files => SeesPreparation settings before files

theorem finds_of_not_run (driver : Driver σ) {settings : Settings} {before : Host}
    {call : SessionCall} {files : OpenFiles} (notRun : call.isRun = false)
    (sees : SeesPreparation settings before files) : driver.Finds settings before call files := by
  cases call with
  | run arguments libs => cases notRun
  | _ => exact sees

theorem isEngaged_engage (stream : Stream) (wanted : Bool) (host : Host) :
    (Suppressor.engage stream wanted host).1.isEngaged = true ↔
      wanted = true ∧ ∃ scope, (Suppressor.discardStream stream host).1 = .ok scope := by
  unfold Suppressor.engage
  cases wanted with
  | false => simp [Suppressor.inert, Suppressor.isEngaged]
  | true =>
      simp only [Bool.not_true, Bool.false_eq_true, if_false, Action.bind_apply, true_and]
      cases (Suppressor.discardStream stream host).1 with
      | ok scope => simp [Suppressor.isEngaged]
      | error error => simp [Suppressor.inert, Suppressor.isEngaged]

/-- What a suppressor that was engaged on a host leaves to be seen. -/
theorem sees_of_hidden {settings : Settings} {before host : Host} {threads : List (Nat × Nat)}
    {mine : Nat → Prop} (isOpen : ∀ stream : Stream, before.opened stream.number ≠ none)
    (hidden : Hidden leaks (fun _ => False) before.opened threads
      (Suppressor.engage .stderr settings.quiet before).1 mine host) :
    SeesPreparation settings before host.opened := by
  have engaged := isEngaged_engage .stderr settings.quiet before
  rcases hidden with ⟨inert, holding⟩ | ⟨copy, file, opening, hiding', found, isFree, holding⟩
  · rw [inert] at engaged
    have notHidden : ¬ Hides settings before := by
      intro hides
      cases engaged.mpr hides
    have kept (stream : Stream) := holding.keeps.kept stream.number not_false (isOpen stream)
    exact ⟨kept .stdout, fun hides => absurd hides notHidden, fun _ => kept .stderr⟩
  · rw [hiding'] at engaged
    have hides : Hides settings before := engaged.mp rfl
    have different : Stream.stdout.number ≠ copy := by
      rintro rfl
      exact isOpen .stdout isFree
    have streamsApart : Stream.stdout.number ≠ Stream.stderr.number := by decide
    have stdout : update (update before.opened copy (some file)) Stream.stderr.number
        (some (.discard opening)) Stream.stdout.number = before.opened Stream.stdout.number := by
      rw [Function.update_of_ne streamsApart, Function.update_of_ne different]
    constructor
    · rw [holding.keeps.kept _ not_false (by rw [stdout]; exact isOpen .stdout), stdout]
    · intro _
      refine ⟨opening, ?_⟩
      rw [holding.keeps.kept _ not_false (by simp), Function.update_self]
    · intro notHidden
      exact absurd hides notHidden

/-- What starting a capture leaves to be seen, when the streams are the original
ones before. -/
theorem sees_of_startCapture (driver : Driver σ) {before prepared : Host}
    (isOpen : ∀ stream : Stream, before.opened stream.number ≠ none)
    (kept : ∀ stream : Stream, prepared.opened stream.number = before.opened stream.number) :
    SeesRun driver before prepared (driver.startCapture prepared).2.opened := by
  let capture : Capture := { nonblocking := driver.nonblocking }
  have inactive : capture.taps = none := rfl
  have started := Ensures.start inactive prepared ⟨rfl, List.Subset.refl _⟩
  unfold startCapture
  cases capturing : driver.capturing with
  | false =>
      constructor
      · intro captures
        cases capturing.symm.trans captures.1
      · exact fun _ => kept
  | true =>
      simp only [if_true, Action.bind_apply]
      rcases outcome : capture.start prepared with ⟨⟨error | done, active⟩, host⟩
      · rw [outcome] at started
        have shows :=
          Ensures.debug s!"running without capturing output: {error.message}" _ started.2
        have notCaptured : ¬ driver.Captures prepared := by
          intro captures
          have succeeded := captures.2
          rw [outcome] at succeeded
          cases succeeded
        refine ⟨fun captures => absurd captures notCaptured, fun _ stream => ?_⟩
        rw [← kept stream, ← shows.files]
        rfl
      · rw [outcome] at started
        obtain ⟨wiring, readers, pipes, now, isActive, connects, diverts, shows⟩ := started
        constructor
        · intro _
          rw [outcome]
          refine ⟨_, pipes, isActive, diverts.apart, fun stream => ?_⟩
          have ends := diverts.ends (fun other => kept other ▸ isOpen other) stream
          have files : host.opened = now := shows.files
          simp only [Action.pure_apply, files]
          cases stream with
          | stdout => exact ⟨diverts.streams .stdout, ends.2, ends.1⟩
          | stderr => exact ⟨diverts.streams .stderr, ends.2, ends.1⟩
        · intro notCaptured
          exact absurd ⟨capturing, by rw [outcome]⟩ notCaptured

/-! ## Requests -/

section

variable {driver : Driver σ} {settings : Settings} {before : Host}

/-- While a request prepares its program all calls have found what they should, and
the suppressor is as it was engaged. -/
structure Watched (driver : Driver σ) (settings : Settings) (leaks : Nat → Prop) (before : Host)
    (mine : Nat → Prop) (host : Host) : Prop where
  saw : before.Saw (driver.Finds settings before) host
  hidden : Hidden leaks (fun _ => False) before.opened before.threads
    (Suppressor.engage .stderr settings.quiet before).1 mine host

theorem watched_create (settings : Settings) (tidy : driver.toolchain.Tidy owns leaks)
    (discreet : driver.toolchain.Discreet)
    (isOpen : ∀ stream : Stream, before.opened stream.number ≠ none) :
    Watched driver settings leaks before
      (Toolchain.heldBy owns (create driver.toolchain settings
        (Suppressor.engage .stderr settings.quiet before).2).1)
      (create driver.toolchain settings (Suppressor.engage .stderr settings.quiet before).2).2 := by
  have hidden := Ensures.engageHidden leaks settings.quiet before ⟨rfl, List.Subset.refl _⟩
  have quiet : before.Saw (driver.Finds settings before)
      (Suppressor.engage .stderr settings.quiet before).2 :=
    .of_silent (Spares.engage (fun _ => not_false) .stderr settings.quiet).silent before
  have sees := sees_of_hidden isOpen hidden
  constructor
  · exact quiet.trans (.create discreet settings (finds_of_not_run driver rfl sees))
  · exact (Hidden.frame _).create tidy settings _ hidden

theorem watched_course (tidy : driver.toolchain.Tidy owns leaks)
    (discreet : driver.toolchain.Discreet)
    (isOpen : ∀ stream : Stream, before.opened stream.number ≠ none) :
    Course driver.toolchain SessionCall.Prepares fun session =>
      Watched driver settings leaks before (owns session) where
  calling session call notRun host watched := by
    have found := finds_of_not_run driver notRun (sees_of_hidden isOpen watched.hidden)
    constructor
    · exact watched.saw.trans (.calling discreet session found)
    · exact (Hidden.frame _).calling tidy session call host watched.hidden
  elapsed session host watched := by
    constructor
    · exact watched.saw.trans (.of_silent Spares.elapsed.silent host)
    · exact (Hidden.frame _).stays .elapsed host watched.hidden

/-- Up to the start of the capture the calls find what they should; when everything
is prepared the diagnostics are shown again. -/
theorem saw_preparing (settings : Settings) (tidy : driver.toolchain.Tidy owns leaks)
    (discreet : driver.toolchain.Discreet)
    (isOpen : ∀ stream : Stream, before.opened stream.number ≠ none) :
    before.Saw (driver.Finds settings before) (driver.preparing settings before).2 ∧
      ∀ session timings, (driver.preparing settings before).1 = .ok (session, timings) →
        Holding leaks (fun _ => False) before.opened before.threads (owns session)
          (driver.preparing settings before).2 := by
  -- whatever ends the request in this stretch makes no further calls
  have stopped {host : Host} (saw : before.Saw (driver.Finds settings before) host)
      {action : Action (Except (Ending BuildResult × Driver σ) (σ × Timings))}
      (silent : Silent action fun outcome => ∀ reached, outcome ≠ .ok reached) :
      before.Saw (driver.Finds settings before) (action host).2 ∧
        ∀ session timings, (action host).1 = .ok (session, timings) →
          Holding leaks (fun _ => False) before.opened before.threads (owns session)
            (action host).2 := by
    obtain ⟨quiet, notPrepared⟩ := silent host trivial
    constructor
    · exact saw.trans (.of_quiet quiet)
    · intro session timings prepared
      exact absurd prepared (notPrepared _)
  have created := watched_create settings tidy discreet isOpen
  rw [preparing, Action.bind_apply, Action.bind_apply]
  rcases outcome : create driver.toolchain settings
    (Suppressor.engage .stderr settings.quiet before).2 with ⟨panic | session, host⟩
  · rw [outcome] at created
    apply stopped created.saw
    exact (Silent.unwind panic (.restoreSuppressor _)).bind fun _ _ => .value (by simp)
  · rw [outcome] at created
    have prepared := (watched_course tidy discreet isOpen).prepare settings
      (fun _ => prepares_of_preparation) session host created
    dsimp only
    rw [Action.bind_apply]
    rcases reached : prepare driver.toolchain settings session host with
      ⟨⟨_ | error | panic, session, timings⟩, later⟩
    all_goals rw [reached] at prepared
    · have restored :=
        Ensures.restoreHidden ((tidy.streams .stderr).2 session) later prepared.hidden
      constructor
      · exact prepared.saw.trans (.of_silent (.restoreSuppressor _) later)
      · intro session' timings' same
        cases same
        exact restored
    · apply stopped prepared.saw
      exact .closing discreet _ session timings _ (by simp)
    · apply stopped prepared.saw
      exact (Silent.unwinding discreet _ session panic).bind fun _ _ => .value (by simp)

theorem saw_run (tidy : driver.toolchain.Tidy owns leaks)
    (discreet : driver.toolchain.Discreet)
    (isOpen : ∀ stream : Stream, before.opened stream.number ≠ none) (arguments : List String) :
    before.Saw (driver.Finds settings before) (driver.run settings arguments before).2 := by
  obtain ⟨saw, holding⟩ := saw_preparing settings tidy discreet isOpen
  rw [run_eq, Action.bind_apply]
  rcases prepared : driver.preparing settings before with ⟨reached | ⟨session, timings⟩, host⟩
  · rw [prepared] at saw
    exact saw
  · rw [prepared] at saw holding
    have keeps := (holding session timings rfl).keeps
    have kept (stream : Stream) := keeps.kept stream.number not_false (isOpen stream)
    dsimp only
    rw [Action.bind_apply, runPrepared_eq]
    have quiet : host.Saw (driver.Finds settings before) (driver.startCapture host).2 :=
      .of_silent (.startCapture driver) host
    have found : driver.Finds settings before (runCall settings arguments)
        (driver.startCapture host).2.opened :=
      ⟨session, timings, host, prepared, rfl, sees_of_startCapture driver isOpen kept⟩
    have called := Host.Saw.timed "run" timings (.calling discreet session found)
    exact saw.trans (quiet.trans (called.trans (.of_silent (.concluding discreet _ _ _) _)))

theorem saw_build (tidy : driver.toolchain.Tidy owns leaks)
    (discreet : driver.toolchain.Discreet)
    (isOpen : ∀ stream : Stream, before.opened stream.number ≠ none) (output : Path) :
    before.Saw (driver.Finds settings before) (driver.build settings output before).2 := by
  have created := watched_create settings tidy discreet isOpen
  rw [build, Action.bind_apply, Action.bind_apply]
  rcases outcome : create driver.toolchain settings
    (Suppressor.engage .stderr settings.quiet before).2 with ⟨panic | session, host⟩
  · rw [outcome] at created
    have silent := Silent.unwind panic (.restoreSuppressor
      (Suppressor.engage .stderr settings.quiet before).1)
    exact created.saw.trans (.of_silent silent host)
  · rw [outcome] at created
    have linked := (watched_course tidy discreet isOpen).link settings output
      (fun _ => prepares_of_preparation) rfl session host created
    dsimp only
    rw [Action.bind_apply]
    rcases reached : driver.link settings output session host with
      ⟨⟨_ | error | panic, session, timings⟩, later⟩
    all_goals
      rw [reached] at linked
      apply linked.saw.trans
    · exact .of_silent (.closing discreet _ session timings (fun _ => True) trivial) later
    · exact .of_silent (.closing discreet _ session timings (fun _ => True) trivial) later
    · exact .of_silent (.unwinding discreet _ session panic) later

end

/-- Each phase sees the right streams.  With a toolchain that touches no descriptor of
others, every call of a request to run or to build a program finds the streams of its
phase: up to the run the original ones, apart from diagnostics that are hidden; for
the run both captured or both original. -/
theorem phases_see_their_streams (driver : Driver σ) (tidy : driver.toolchain.Tidy owns leaks)
    (discreet : driver.toolchain.Discreet) (settings : Settings) (host : Host)
    (isOpen : ∀ stream : Stream, host.opened stream.number ≠ none) :
    (∀ arguments, host.Saw (driver.Finds settings host) (driver.run settings arguments host).2) ∧
      ∀ output, host.Saw (driver.Finds settings host) (driver.build settings output host).2 :=
  ⟨saw_run tidy discreet isOpen, saw_build tidy discreet isOpen⟩

/-- A script that hides half a line of diagnostics and then runs a program that writes to
both streams. -/
def noisyRun : ToolchainScript :=
  { compile := { actions := [.write .stderr (Bytes.ofText "half a warning")] }
    run :=
      { actions := [.write .stdout (Bytes.ofText "out"), .write .stderr (Bytes.ofText "err")] } }

/-- A quiet request whose program is captured: five calls find their streams. -/
theorem phases_see_their_streams_noisy_run :
    let driver : Driver Unit := { toolchain := noisyRun.toolchain fun _ _ => .error .notFound }
    let settings : Settings := { argv0 := [], input := [], plugins := ["first"], quiet := true }
    let host : Host := { table := .standard }
    host.Saw (driver.Finds settings host) (driver.run settings [] host).2 ∧
      ((driver.run settings [] host).2.callsSince host).length = 5 ∧
      Hides settings host ∧ driver.Captures (driver.preparing settings host).2 := by
  intro driver settings host
  have tidy := noisyRun.tidy fun _ _ => .error .notFound
  have discreet := noisyRun.discreet fun _ _ => .error .notFound
  have isOpen (stream : Stream) : host.opened stream.number ≠ none := by
    cases stream <;> exact nofun
  refine ⟨(phases_see_their_streams driver tidy discreet settings host isOpen).1 [], ?_, ?_, ?_⟩
  · decide +kernel
  · exact ⟨rfl, _, rfl⟩
  · exact ⟨rfl, by decide +kernel⟩

end Driver

end CompileDriver
