import CompileDriver.Proofs.Driver.Conserve
import CompileDriver.Proofs.Driver.CrashRace

/-!
# Requests that crash

With the crash handler as panic hook the process exits wherever the toolchain panics in the
course of a request, and before that the report of the first panicking thread is written to
standard error.  The guards of the request are still in place at that time: only where neither
the diagnostics are hidden nor the program is captured does the report reach what standard
error referred to before the request.
-/

namespace CompileDriver

variable {σ : Type} {leaks : Nat → Prop} {owns : σ → Nat → Prop}

/-! ## The panic hook -/

/-- The crash handler is installed, and no report has been begun. -/
structure Host.Armed (host : Host) : Prop where
  hook : host.panicHook = .crashReport
  fresh : host.crashReported = false

namespace Host

variable {foreign : Nat → Prop} {before after : Host}

theorem Armed.of_same (armed : before.Armed) (hook : after.panicHook = before.panicHook)
    (reported : after.crashReported = before.crashReported) : after.Armed :=
  ⟨hook.trans armed.hook, reported.trans armed.fresh⟩

theorem Armed.of_view (armed : before.Armed) (same : after.view = before.view) : after.Armed :=
  armed.of_same (congrArg View.panicHook same) (congrArg View.crashReported same)

/-- No step of the process changes the panic hook or begins a report. -/
theorem Armed.step (armed : before.Armed) (step : Step foreign before after) : after.Armed := by
  cases step with
  | utter utterance => exact armed.of_view utterance.view
  | startReader started =>
      unfold Host.startReader at started
      split at started <;> cases started
      exact armed.of_same rfl rfl
  | join thread =>
      have awaited :=
        view_of_readersRan (readersRan_await before fun host => !host.isReading thread)
      exact armed.of_same (congrArg View.panicHook awaited) (congrArg View.crashReported awaited)
  | _ => exact armed.of_same rfl rfl

theorem Armed.steps (armed : before.Armed) (steps : Steps foreign before after) :
    after.Armed := by
  induction steps with
  | refl => exact armed
  | tail _ step ih => exact ih.step step

end Host

/-- To leave the crash handler installed, and to begin no report. -/
def vigilance : Discipline where
  needs _ := True
  allows before after := before.Armed → after.Armed
  refl _ := id
  trans start rest armed := rest (start armed)
  keeps _ _ := trivial

theorem vigilance_letsRun : vigilance.LetsRun where
  anywhere _ := trivial
  utterances utterances armed := armed.steps utterances.steps
  files _ _ armed := armed.of_same rfl rfl
  numberLimit _ _ armed := armed.of_same rfl rfl

/-- No call of the toolchain removes the crash handler or makes use of it. -/
structure Toolchain.LeavesHook (toolchain : Toolchain σ) : Prop where
  create : ∀ settings, vigilance.Governs (toolchain.createSession settings) fun _ => True
  call : ∀ session call, vigilance.Governs (toolchain.perform session call) fun _ => True

theorem ToolchainScript.leavesHook (launcher : Launcher) (script : ToolchainScript) :
    (script.toolchain launcher).LeavesHook where
  create settings :=
    (governs_create launcher vigilance_letsRun script settings).weaken fun _ _ => trivial
  call _ call := (governs_call launcher vigilance_letsRun script call).weaken fun _ _ => trivial

theorem Ensures.armed {α : Type} {action : Action α} {yields : α → Prop}
    (spares : Spares (fun _ => False) action yields) :
    Ensures Host.Armed action fun _ => Host.Armed :=
  fun host armed => armed.steps (spares host fun _ isForeign => isForeign.elim).1

/-! ## Requests and their panics -/

namespace Driver

/-- What a request does with its session while the suppressor is engaged. -/
def working (driver : Driver σ) (session : σ) : Request → Action (CallEnd × σ × Timings)
  | .run settings _ => prepare driver.toolchain settings session
  | .build settings output => driver.link settings output session

/-- The toolchain panics at a moment of a request, and whether that is a moment at which
standard error is redirected.  A panic of any thread counts that is started by a call: up to
it the call has done what it has done. -/
inductive PanicsAt (driver : Driver σ) (before : Host) : Request → Prop → Panic → Host → Prop
  /-- No session could be created. -/
  | creating {request : Request} {panic : Panic} {moment : Host}
      (panicked : create driver.toolchain request.settings
        (Suppressor.engage .stderr request.settings.quiet before).2 = (.error panic, moment)) :
      PanicsAt driver before request (Hides request.settings before) panic moment
  /-- The program could not be prepared, or written out. -/
  | working {request : Request} {session later : σ} {created moment : Host} {panic : Panic}
      {timings : Timings}
      (begun : create driver.toolchain request.settings
        (Suppressor.engage .stderr request.settings.quiet before).2 = (.ok session, created))
      (panicked : driver.working session request created =
        ((.panicked panic, later, timings), moment)) :
      PanicsAt driver before request (Hides request.settings before) panic moment
  /-- The program could not be run. -/
  | running {settings : Settings} {arguments : List String} {session later : σ}
      {timings recorded : Timings} {prepared moment : Host} {panic : Panic}
      (begun : driver.preparing settings before = (.ok (session, timings), prepared))
      (panicked : driver.running settings arguments session timings prepared =
        ((.panicked panic, later, recorded), moment)) :
      PanicsAt driver before (.run settings arguments) (driver.Captures prepared) panic moment

variable {driver : Driver σ} {request : Request} {guarded : Prop} {panic : Panic}
  {before moment : Host}

/-- A request that is not prepared has met a panic, or it returns. -/
theorem panicsAt_or_unprepared {settings : Settings} {arguments : List String}
    {reached : Ending BuildResult × Driver σ} {last : Host}
    (unprepared : driver.preparing settings before = (.error reached, last)) :
    (∃ guarded panic moment,
      driver.PanicsAt before (.run settings arguments) guarded panic moment) ∨
      ∃ result, reached.1 = .returned result := by
  rw [preparing, Action.bind_apply, Action.bind_apply] at unprepared
  rcases created : create driver.toolchain settings
    (Suppressor.engage .stderr settings.quiet before).2 with ⟨panic | session, host⟩
  · exact .inl ⟨_, panic, host, .creating created⟩
  · rw [created] at unprepared
    dsimp only at unprepared
    rw [Action.bind_apply] at unprepared
    rcases prepared : prepare driver.toolchain settings session host with
      ⟨⟨_ | error | panic, later, timings⟩, moment⟩
    · rw [prepared] at unprepared
      cases unprepared
    · rw [prepared] at unprepared
      cases unprepared
      exact .inr ⟨_, rfl⟩
    · exact .inl ⟨_, panic, moment, .working created prepared⟩

/-- A request that has met no panic returns. -/
theorem panicsAt_or_returned (driver : Driver σ) (request : Request) (before : Host) :
    (∃ guarded panic moment, driver.PanicsAt before request guarded panic moment) ∨
      ∃ result, (driver.serve request before).1.1 = .returned result := by
  cases request with
  | run settings arguments =>
      rcases reached : driver.preparing settings before with
        ⟨reached' | ⟨session, timings⟩, prepared⟩
      · refine (panicsAt_or_unprepared reached).imp_right ?_
        rintro ⟨result, returned⟩
        refine ⟨result, ?_⟩
        rw [serve, run_eq, Action.bind_apply, reached]
        exact returned
      · have isRun := (run_of_prepared arguments reached).1
        rcases ran : driver.running settings arguments session timings prepared with
          ⟨⟨ended, last, recorded⟩, moment⟩
        rw [ran] at isRun
        by_cases returns : ended.returns = true
        · obtain ⟨⟨result, concluded, -⟩, -⟩ := concluding_of_returns driver
            (driver.startCapture prepared).1.1 (driver.startCapture prepared).1.2 returns last
            recorded moment
          exact .inr ⟨result, isRun.trans concluded⟩
        · cases ended with
          | panicked panic => exact .inl ⟨_, panic, moment, .running reached ran⟩
          | _ => exact absurd rfl returns
  | build settings output =>
      rcases created : create driver.toolchain settings
        (Suppressor.engage .stderr settings.quiet before).2 with ⟨panic | session, host⟩
      · exact .inl ⟨_, panic, host, .creating created⟩
      · rcases linked : driver.link settings output session host with
          ⟨⟨ended, later, timings⟩, moment⟩
        cases ended with
        | panicked panic => exact .inl ⟨_, panic, moment, .working created linked⟩
        | succeeded =>
            refine .inr ⟨.built output, ?_⟩
            simp only [serve, build, Action.bind_apply, created, linked]
            rfl
        | failed error =>
            refine .inr ⟨.failure error.message, ?_⟩
            simp only [serve, build, Action.bind_apply, created, linked]
            rfl

/-! ## The exit -/

/-- The crash handler writes its report, unless another thread has begun one, and the
guards are left as they are. -/
theorem unwind_of_armed (hook : moment.panicHook = .crashReport) (panic : Panic)
    (cleanup : Action Unit) :
    unwind panic cleanup moment = (.exited CrashReport.exitCode, (panic.report moment).2) := by
  simp only [unwind, Panic.raise, Action.bind_apply, Action.get_apply, hook]
  rfl

/-- Where the toolchain panics the process exits. -/
theorem exits_of_panicsAt (panics : driver.PanicsAt before request guarded panic moment)
    (hook : moment.panicHook = .crashReport) :
    (driver.serve request before).1.1 = .exited CrashReport.exitCode ∧
      (driver.serve request before).2 = (panic.report moment).2 := by
  cases panics with
  | creating panicked =>
      cases request with
      | run settings arguments =>
          rw [Request.settings] at panicked
          simp only [serve, run, Action.bind_apply, panicked, unwind_of_armed hook]
          exact ⟨rfl, rfl⟩
      | build settings output =>
          rw [Request.settings] at panicked
          simp only [serve, build, Action.bind_apply, panicked, unwind_of_armed hook]
          exact ⟨rfl, rfl⟩
  | working begun panicked =>
      cases request with
      | run settings arguments =>
          rw [Request.settings] at begun
          rw [working] at panicked
          simp only [serve, run, Action.bind_apply, begun, panicked, unwind_of_armed hook]
          exact ⟨rfl, rfl⟩
      | build settings output =>
          rw [Request.settings] at begun
          rw [working] at panicked
          simp only [serve, build, Action.bind_apply, begun, panicked, unwind_of_armed hook]
          exact ⟨rfl, rfl⟩
  | @running settings arguments session later timings recorded prepared _ _ begun panicked =>
      obtain ⟨isEnding, isHost⟩ := run_of_prepared arguments begun
      rw [serve, isEnding, isHost, panicked]
      simp only [concluding, Action.bind_apply, unwind_of_armed hook]
      exact ⟨rfl, rfl⟩

/-! ## Standard error at the moment of a panic -/

/-- The suppressor of a request is as it was engaged, and the crash handler is ready. -/
def Underway (leaks : Nat → Prop) (settings : Settings) (before : Host) (mine : Nat → Prop)
    (host : Host) : Prop :=
  Hidden leaks (fun _ => False) before.opened before.threads
    (Suppressor.engage .stderr settings.quiet before).1 mine host ∧ host.Armed

/-- Apart from what the session holds everything is in place, and the crash handler is
ready. -/
def Placed (leaks : Nat → Prop) (before : Host) (mine : Nat → Prop) (host : Host) : Prop :=
  Holding leaks (fun _ => False) before.opened before.threads mine host ∧ host.Armed

section

variable {settings : Settings} {host : Host} {mine : Nat → Prop}

theorem placed_of_not_hides (notHidden : ¬ Hides settings before)
    (underway : Underway leaks settings before mine host) : Placed leaks before mine host := by
  have engaged := isEngaged_engage .stderr settings.quiet before
  rcases underway with ⟨⟨-, holding⟩ | ⟨copy, file, opening, hiding', -⟩, armed⟩
  · exact ⟨holding, armed⟩
  · rw [hiding'] at engaged
    exact absurd (engaged.mp rfl) notHidden

end

theorem armed_calling (leaves : driver.toolchain.LeavesHook) (session : σ) (call : SessionCall) :
    Ensures Host.Armed (calling call (driver.toolchain.perform session call))
      fun _ => Host.Armed := by
  have noted (event : Event) : Ensures Host.Armed (modify (·.note event) : Action PUnit)
      fun _ => Host.Armed := fun host armed => armed.of_same rfl rfl
  have called : Ensures Host.Armed (driver.toolchain.perform session call) fun _ => Host.Armed :=
    fun host => (leaves.call session call host trivial).1
  have returns (ended : CallEnd) :
      Ensures Host.Armed (returned call ended) fun _ => Host.Armed := by
    cases ended with
    | succeeded => exact noted _
    | failed error => exact noted _
    | panicked panic => exact .value fun _ armed => armed
  exact (noted _).bind fun _ => called.bind fun reached => (returns reached.1).bind fun _ =>
    .value fun _ armed => armed

theorem armed_create (leaves : driver.toolchain.LeavesHook) (settings : Settings) :
    Ensures Host.Armed (create driver.toolchain settings) fun _ => Host.Armed := by
  have noted (event : Event) : Ensures Host.Armed (modify (·.note event) : Action PUnit)
      fun _ => Host.Armed := fun host armed => armed.of_same rfl rfl
  have created : Ensures Host.Armed (driver.toolchain.createSession settings)
      fun _ => Host.Armed := fun host => (leaves.create settings host trivial).1
  refine (noted _).bind fun _ => created.bind fun outcome => ?_
  cases outcome with
  | error panic => exact .value fun _ armed => armed
  | ok session => exact (noted _).bind fun _ => .value fun _ armed => armed

theorem underway_course (tidy : driver.toolchain.Tidy owns leaks)
    (leaves : driver.toolchain.LeavesHook) (settings : Settings) :
    Course driver.toolchain SessionCall.Prepares fun session =>
      Underway leaks settings before (owns session) where
  calling session call _ :=
    ((Hidden.frame _).calling tidy session call).both (armed_calling leaves session call)
  elapsed _ := ((Hidden.frame _).stays .elapsed).both (.armed Spares.elapsed)

section

variable (tidy : driver.toolchain.Tidy owns leaks) (leaves : driver.toolchain.LeavesHook)
  (armed : before.Armed)

include tidy leaves armed

theorem underway_create (settings : Settings) :
    Underway leaks settings before
      (Toolchain.heldBy owns (create driver.toolchain settings
        (Suppressor.engage .stderr settings.quiet before).2).1)
      (create driver.toolchain settings (Suppressor.engage .stderr settings.quiet before).2).2 := by
  have engaged : Underway leaks settings before (fun _ => False)
      (Suppressor.engage .stderr settings.quiet before).2 :=
    ⟨Ensures.engageHidden leaks settings.quiet before ⟨rfl, List.Subset.refl _⟩,
      Ensures.armed (Spares.engage (fun _ => not_false) .stderr settings.quiet) before armed⟩
  exact ((Hidden.frame _).create tidy settings).both (armed_create leaves settings) _ engaged

/-- When the program is prepared the diagnostics are shown again. -/
theorem placed_prepared {settings : Settings} {session : σ} {timings : Timings} {prepared : Host}
    (succeeded : driver.preparing settings before = (.ok (session, timings), prepared)) :
    Placed leaks before (owns session) prepared := by
  have underway := underway_create tidy leaves armed settings
  rw [preparing, Action.bind_apply, Action.bind_apply] at succeeded
  rcases outcome : create driver.toolchain settings
    (Suppressor.engage .stderr settings.quiet before).2 with ⟨panic | created, host⟩
  · rw [outcome] at succeeded
    cases succeeded
  · rw [outcome] at succeeded underway
    have worked := (underway_course tidy leaves settings).prepare settings
      (fun _ => prepares_of_preparation) created host underway
    dsimp only at succeeded
    rw [Action.bind_apply] at succeeded
    rcases reached : prepare driver.toolchain settings created host with
      ⟨⟨_ | error | panic, now, recorded⟩, later⟩
    all_goals rw [reached] at succeeded worked
    · cases succeeded
      have restored := Ensures.restoreHidden ((tidy.streams .stderr).2 _) later worked.1
      have spares : Spares (fun _ => False)
          (Suppressor.engage .stderr settings.quiet before).1.restore _ :=
        .restoreSuppressor (fun _ => not_false) (Suppressor.own_none _)
      exact ⟨restored, Ensures.armed spares later worked.2⟩
    · cases succeeded
    · cases succeeded

/-- At the moment of a panic the crash handler is ready, and everything is in place unless
standard error is redirected. -/
theorem placed_of_panicsAt (panics : driver.PanicsAt before request guarded panic moment) :
    moment.Armed ∧ (¬ guarded → ∃ mine, Placed leaks before mine moment) := by
  cases panics with
  | creating panicked =>
      have underway := underway_create tidy leaves armed request.settings
      rw [panicked] at underway
      exact ⟨underway.2, fun notHidden => ⟨_, placed_of_not_hides notHidden underway⟩⟩
  | @working request session later created moment panic timings begun panicked =>
      have underway := underway_create tidy leaves armed request.settings
      rw [begun] at underway
      have worked : Underway leaks request.settings before (owns later) moment := by
        have course : Course driver.toolchain SessionCall.Prepares fun session =>
            Underway leaks request.settings before (owns session) :=
          underway_course tidy leaves request.settings
        cases request with
        | run settings arguments =>
            have prepared := course.prepare settings (fun _ => prepares_of_preparation) session
              created underway
            rw [working] at panicked
            rw [panicked] at prepared
            exact prepared
        | build settings output =>
            have linked := course.link settings output (fun _ => prepares_of_preparation) rfl
              session created underway
            rw [working] at panicked
            rw [panicked] at linked
            exact linked
      exact ⟨worked.2, fun notHidden => ⟨_, placed_of_not_hides notHidden worked⟩⟩
  | @running settings arguments session later timings recorded prepared moment panic begun
      panicked =>
      obtain ⟨holding, ready⟩ := placed_prepared tidy leaves armed begun
      have spares : Spares (fun _ => False) driver.startCapture _ :=
        .startCapture (fun _ => not_false) driver
      have started := Ensures.armed spares prepared ready
      have armedCourse : Course driver.toolchain (fun _ => True) fun _ => Host.Armed :=
        { calling := fun session call _ => armed_calling leaves session call
          elapsed := fun _ => .armed Spares.elapsed }
      have ran := @Course.timed _ _ _ _ armedCourse session _
        (armed_calling leaves session (runCall settings arguments)) "run" timings _ started
      rw [running] at panicked
      rw [panicked] at ran
      refine ⟨ran, fun notCaptured => ⟨owns later, ?_, ran⟩⟩
      obtain ⟨-, visible⟩ := startCapture_of_not_captures tidy holding notCaptured
      have held := (Holding.frame.course tidy).timed
        (Holding.frame.calling tidy session (runCall settings arguments)) "run" timings _ visible
      rw [panicked] at held
      exact held

end

/-! ## Requests -/

/-- What becomes of a request at one of whose moments the toolchain panics, and of the process
if any number of threads panic at that moment. -/
structure Crashes (driver : Driver σ) (before : Host) (request : Request) (guarded : Prop)
    (panic : Panic) (moment : Host) : Prop where
  exits : (driver.serve request before).1.1 = .exited CrashReport.exitCode
  /-- Unless standard error is redirected the whole report reaches what it was before. -/
  reported : ¬ guarded → ∀ file, before.opened Stream.stderr.number = some file →
    before.opened.Takes Stream.stderr.number →
      (driver.serve request before).2.passedSince moment Stream.stderr.number file =
        CrashReport.bytes panic
  /-- Any race ends when one of its threads has made its moves, with the exit code of a
  crash. -/
  raceEnds : ∀ panics schedule,
    (∀ number panic, panics[number]? = some panic →
      CrashReport.moves panic ≤ schedule.count number →
        ((CrashRace.start panics moment).run schedule).ended ≠ none) ∧
    ∀ last code, ((CrashRace.start panics moment).run schedule).ended = some (last, code) →
      code = CrashReport.exitCode
  /-- Only the first thread writes, and its report is complete if it ends the process. -/
  raceReported : ¬ guarded → ∀ file, before.opened Stream.stderr.number = some file →
    before.opened.Takes Stream.stderr.number → ∀ panics schedule,
      CrashRace.Reports moment file panics schedule ((CrashRace.start panics moment).run schedule)

/-- Crashes are reported.  With the crash handler as panic hook and a toolchain that touches
neither the hook nor the descriptors of others: a request returns unless the toolchain panics,
and wherever it does the process exits with the code of a crash.  Unless standard error is
redirected at that moment exactly one report reaches what it referred to before the request,
and the report is complete if its thread is the one that ends the process. -/
theorem crashes_are_reported (driver : Driver σ) (tidy : driver.toolchain.Tidy owns leaks)
    (leaves : driver.toolchain.LeavesHook) (request : Request) {before : Host}
    (armed : before.Armed) :
    ((∃ guarded panic moment, driver.PanicsAt before request guarded panic moment) ∨
      ∃ result, (driver.serve request before).1.1 = .returned result) ∧
    ∀ guarded panic moment, driver.PanicsAt before request guarded panic moment →
      driver.Crashes before request guarded panic moment := by
  refine ⟨panicsAt_or_returned driver request before, fun guarded panic moment panics => ?_⟩
  obtain ⟨ready, placed⟩ := placed_of_panicsAt tidy leaves armed panics
  obtain ⟨exits, wrote⟩ := exits_of_panicsAt panics ready.hook
  have raceReported (notGuarded : ¬ guarded) (file : OpenFile)
      (found : before.opened Stream.stderr.number = some file)
      (takes : before.opened.Takes Stream.stderr.number) (panics : List Panic)
      (schedule : List Nat) :
      CrashRace.Reports moment file panics schedule
        ((CrashRace.start panics moment).run schedule) := by
    obtain ⟨mine, holding, -⟩ := placed notGuarded
    have kept (number : Nat) (used : before.opened number ≠ none) :=
      holding.keeps.kept number not_false used
    have stillFound : moment.opened Stream.stderr.number = some file :=
      (kept _ (by simp [found])).trans found
    exact CrashRace.run_reports panics stillFound (takes.kept kept) ready.fresh schedule
  refine ⟨exits, fun notGuarded file found takes => ?_, fun panics schedule => ⟨?_, ?_⟩,
    raceReported⟩
  · have alone := raceReported notGuarded file found takes [panic]
      (List.replicate (CrashReport.moves panic) 0)
    rw [CrashRace.run_alone] at alone
    rw [wrote]
    exact (alone 0 panic (by simp [CrashReport.moves]) rfl).2 _ rfl
  · intro number other isPanic enough
    have isThread : (CrashRace.start panics moment).threads[number]? = some { panic := other } := by
      rw [CrashRace.start, List.getElem?_map, isPanic]
      rfl
    exact CrashRace.ended_of_moves isThread enough
  · intro last code hasEnded
    exact CrashRace.code_of_run rfl schedule hasEnded

/-- A script that warns while it compiles and then panics. -/
def panickingCompile : ToolchainScript :=
  { compile := { actions := [.write .stderr (Bytes.ofText "warning\n"), .panic "broken"] } }

/-- A process at its start, with the crash handler installed. -/
def crashing : Host :=
  { table := .standard, panicHook := .crashReport }

/-- The diagnostics are shown, and so is the report. -/
theorem crashes_are_reported_compile :
    let driver : Driver Unit :=
      { toolchain := panickingCompile.toolchain fun _ _ => .error .notFound }
    let request : Request := .run { argv0 := [], input := [] } []
    (driver.serve request crashing).2.received.stderr =
        Bytes.ofText "warning\n" ++ CrashReport.bytes { message := some "broken" } ∧
      ¬ Hides request.settings crashing ∧
      ∃ moment, driver.Crashes crashing request (Hides request.settings crashing)
        { message := some "broken" } moment := by
  intro driver request
  have tidy := panickingCompile.tidy fun _ _ => .error .notFound
  have leaves := panickingCompile.leavesHook fun _ _ => .error .notFound
  have notHidden : ¬ Hides request.settings crashing := by
    rintro ⟨⟨⟩, -⟩
  have panics : ∃ moment, driver.PanicsAt crashing request (Hides request.settings crashing)
      { message := some "broken" } moment := ⟨_, .working rfl rfl⟩
  obtain ⟨moment, panics⟩ := panics
  refine ⟨by decide +kernel, notHidden, moment, ?_⟩
  exact (crashes_are_reported driver tidy leaves request ⟨rfl, rfl⟩).2 _ _ _ panics

/-- Reports are lost.  The report of a request that hides the diagnostics goes to the discard
device, that of a program that is captured goes to a pipe which nobody reads any more, and that
of a thread which is overtaken by another one that panics is cut off. -/
theorem crash_reports_are_lost :
    let quiet : Driver Unit :=
      { toolchain := panickingCompile.toolchain fun _ _ => .error .notFound }
    let captured : Driver Unit :=
      { toolchain := panickingRun.toolchain fun _ _ => .error .notFound }
    let hidden := quiet.serve (.run { argv0 := [], input := [], quiet := true } []) crashing
    let ran := captured.serve (.run { argv0 := [], input := [] } []) crashing
    let race := (CrashRace.start [{ message := some "first" }, { message := some "second" }]
      crashing).run [0, 0, 1, 1]
    (hidden.1.1 = .exited CrashReport.exitCode ∧ hidden.2.received.stderr = []) ∧
      (ran.1.1 = .exited CrashReport.exitCode ∧ ran.2.received.stderr = []) ∧
      race.ended = some (1, CrashReport.exitCode) ∧
        race.host.received.stderr = Bytes.ofText CrashReport.greeting := by
  decide +kernel

end Driver

end CompileDriver
