import CompileDriver.Frontend.Basic
import CompileDriver.Proofs.Driver.Conserve
import CompileDriver.Proofs.Driver.Walk
import CompileDriver.Proofs.Frontend.Source

/-!
# How requests end

A request of the front end ends in one of four ways.  There is no source, or the directory to
sweep is not known, and then nothing has been done; or its calls have walked their plan, to
the end or up to the first one that failed.  `Ends` lists these ways, with what the request
returns in each of them, and the main theorem says of every outcome when exactly it is
returned.
-/

namespace CompileDriver

variable {σ : Type}

/-! ## Plans -/

namespace Host

/-- Every call of a plan was made and has succeeded. -/
def Completes (plan : List SessionCall) (before after : Host) : Prop :=
  before.Answered after (plan.map (·, none))

/-- The first calls of a plan have succeeded, the next one has failed, and the rest of them
was not made. -/
def Stops (plan : List SessionCall) (error : ToolchainError) (before after : Host) : Prop :=
  ∃ done call rest, plan = done ++ call :: rest ∧
    before.Answered after (done.map (·, none) ++ [(call, some error)])

variable {plan : List SessionCall} {error : ToolchainError} {before after : Host}

theorem Completes.not_stops (completes : Completes plan before after) :
    ¬ Stops plan error before after := by
  rintro ⟨done, call, rest, -, answered⟩
  have member : (call, some error) ∈
      plan.map fun call => (call, (none : Option ToolchainError)) := by
    rw [← completes.answers, answered.answers]
    exact List.mem_append_right _ (List.mem_singleton_self _)
  obtain ⟨other, -, same⟩ := List.mem_map.mp member
  cases same

/-- There is only one failure. -/
theorem Stops.error_eq {other : ToolchainError} (stops : Stops plan error before after)
    (too : Stops plan other before after) : error = other := by
  obtain ⟨done, call, rest, -, answered⟩ := stops
  obtain ⟨doneToo, callToo, restToo, -, answeredToo⟩ := too
  have same := (List.append_inj' (answered.answers.symm.trans answeredToo.answers) rfl).2
  cases same
  rfl

end Host

namespace Walks

variable {plan : List SessionCall} {answers : List Answer} {before after : Host}

theorem completes (walks : Walks plan answers none) (answered : before.Answered after answers) :
    Host.Completes plan before after := by
  have all : answers = plan.map (·, none) := by
    clear answered
    generalize ends : (none : Option ToolchainError) = failure at walks
    induction walks with
    | done => rfl
    | failed => cases ends
    | next call _ ih =>
        cases ends
        rw [List.map_cons, ← ih rfl]
  rw [all] at answered
  exact answered

theorem stops {error : ToolchainError} (walks : Walks plan answers (some error))
    (answered : before.Answered after answers) : Host.Stops plan error before after := by
  have first : ∃ done call rest, plan = done ++ call :: rest ∧
      answers = done.map (·, none) ++ [(call, some error)] := by
    clear answered
    generalize ends : some error = failure at walks
    induction walks with
    | done => cases ends
    | failed call rest =>
        cases ends
        exact ⟨[], call, rest, rfl, rfl⟩
    | next first _ ih =>
        obtain ⟨done, call, rest, rfl, rfl⟩ := ih ends
        exact ⟨first :: done, call, rest, rfl, rfl⟩
  obtain ⟨done, call, rest, split, rfl⟩ := first
  exact ⟨done, call, rest, split, answered⟩

end Walks

namespace Driver

/-! ## The output of a run -/

variable (driver : Driver σ) (settings : Settings) (arguments : List String)

/-- What has been captured when the call that runs the program has returned.  Without such a
call, or without a capture, that is nothing. -/
def captured (host : Host) : CapturedOutput :=
  match driver.preparing settings host with
  | (.error _, _) => {}
  | (.ok (session, timings), prepared) =>
      (output (driver.startCapture prepared).1.1 (driver.startCapture prepared).1.2
        (driver.running settings arguments session timings prepared).2).1

/-- The output in the result of a request is what has been captured. -/
theorem run_captured (sound : driver.toolchain.Returns) {host : Host} {result : BuildResult}
    (returned : (driver.run settings arguments host).1.1 = .returned result) :
    result.stdout = (driver.captured settings arguments host).stdout ∧
      result.stderr = (driver.captured settings arguments host).stderr := by
  unfold captured
  rcases prepared : driver.preparing settings host with ⟨reached | ⟨session, timings⟩, later⟩
  · have unprepared : (driver.preparing settings host).1 = .error reached :=
      congrArg Prod.fst prepared
    apply result_of_unprepared unprepared
    rw [← returned, run_eq, Action.bind_apply, unprepared]
    rfl
  · have returns := (sound.call session (runCall settings arguments)
      (driver.calledOn settings arguments later)).1
    obtain ⟨last, isLast, stdout, stderr⟩ := run_of_returns arguments prepared returns
    obtain rfl := Ending.returned.inj (returned.symm.trans isLast)
    exact ⟨stdout, stderr⟩

end Driver

namespace Frontend

variable (frontend : Frontend σ) (source : Path)

/-! ## The ways to end -/

/-- The calls that a request makes when nothing fails, in the state in which it begins to make
them. -/
def plan (host : Host) : List SessionCall :=
  if frontend.options.runAfterBuild then
    Driver.runCalls (frontend.settings host source false) frontend.options.programArguments
  else
    Driver.buildCalls (frontend.settings host source true)
      (frontend.options.outputPath.getD (Path.defaultOutput source))

/-- What a request to run the program has captured of it. -/
def captured (host : Host) : CapturedOutput :=
  frontend.driver.captured (frontend.settings host source false) frontend.options.programArguments
    host

/-- What a request returns when nothing has failed.  A program is built where the options say,
and beside its source without them. -/
def produced (host : Host) : RunOutput :=
  if frontend.options.runAfterBuild then
    { stdout := (frontend.captured source host).stdout
      stderr := (frontend.captured source host).stderr }
  else
    { outputPath := some (frontend.options.outputPath.getD (Path.defaultOutput source)) }

/-- What a request reports when a call has failed. -/
def failure (host : Host) (error : ToolchainError) : RequestError :=
  if frontend.options.runAfterBuild then
    .runFailed error.message (frontend.captured source host).stdout
      (frontend.captured source host).stderr
  else
    .buildFailed error.message

/-- The state in which the calls begin: stale sockets have been removed, when that is wanted. -/
def begun (host : Host) : Host :=
  if frontend.options.cleanSockets then (sweepSockets host).2 else host

/-- There is a source. -/
def HasSource (host : Host) : Prop :=
  host.files.exists? host.directory source = true

/-- The sockets cannot be removed, because the current directory is not known. -/
def Strands (host : Host) (error : OsError) : Prop :=
  frontend.options.cleanSockets = true ∧ host.currentDirectory = .error error

/-- The calls of a request begin: there is a source, and the sweep, if any, is possible. -/
structure Begins (host : Host) : Prop where
  present : HasSource source host
  goes : ∀ error, ¬ frontend.Strands host error

/-- How a request ends that was made on a host, and what it returns. -/
inductive Ends (before : Host) : Host → Except RequestError RunOutput → Prop
  | missing (absent : ¬ HasSource source before) :
      Ends before before (.error (.sourceNotFound source))
  | stranded (present : HasSource source before) {error : OsError}
      (strands : frontend.Strands before error) : Ends before before (.error (.io error))
  | completed (begins : frontend.Begins source before) {after : Host}
      (completes : Host.Completes (frontend.plan source (frontend.begun before))
        (frontend.begun before) after) :
      Ends before after (.ok (frontend.produced source (frontend.begun before)))
  | stopped (begins : frontend.Begins source before) {after : Host} {error : ToolchainError}
      (stops : Host.Stops (frontend.plan source (frontend.begun before)) error
        (frontend.begun before) after) :
      Ends before after (.error (frontend.failure source (frontend.begun before) error))

/-- When exactly a request that was made on a host returns what. -/
structure Classifies (before after : Host) (outcome : Except RequestError RunOutput) : Prop where
  sourceNotFound : ∀ path, outcome = .error (.sourceNotFound path) ↔
    path = source ∧ ¬ HasSource source before
  io : ∀ error, outcome = .error (.io error) ↔
    HasSource source before ∧ frontend.Strands before error
  ok : ∀ output, outcome = .ok output ↔
    frontend.Begins source before ∧
      Host.Completes (frontend.plan source (frontend.begun before)) (frontend.begun before) after ∧
        output = frontend.produced source (frontend.begun before)
  runFailed : ∀ message stdout stderr, outcome = .error (.runFailed message stdout stderr) ↔
    frontend.options.runAfterBuild = true ∧ frontend.Begins source before ∧
      (∃ error, Host.Stops (frontend.plan source (frontend.begun before)) error
        (frontend.begun before) after ∧ message = error.message) ∧
      stdout = (frontend.captured source (frontend.begun before)).stdout ∧
        stderr = (frontend.captured source (frontend.begun before)).stderr
  buildFailed : ∀ message, outcome = .error (.buildFailed message) ↔
    frontend.options.runAfterBuild = false ∧ frontend.Begins source before ∧
      ∃ error, Host.Stops (frontend.plan source (frontend.begun before)) error
        (frontend.begun before) after ∧ message = error.message
  /-- Nothing else is reported. -/
  resourceCreation : ∀ path error, outcome ≠ .error (.resourceCreation path error)
  /-- A failure of a call is reported in words. -/
  notBlank : ∀ message,
    (∃ stdout stderr, outcome = .error (.runFailed message stdout stderr)) ∨
      outcome = .error (.buildFailed message) → Text.isAllBlank message = false
  /-- Exactly the failure of a run has an output. -/
  attached : ∀ stdout stderr,
    (∃ error : RequestError, outcome = .error error ∧ error.captured = some (stdout, stderr)) ↔
      ∃ message, outcome = .error (.runFailed message stdout stderr)
  /-- Unless the calls begin, nothing is done. -/
  untouched : ¬ frontend.Begins source before → after = before

variable {frontend source}

/-! ## Sweeping -/

/-- Nothing is swept when the current directory is not known. -/
theorem sweepSockets_unknown {host : Host} {error : OsError}
    (unknown : host.currentDirectory = .error error) :
    sweepSockets host = (.error error, host) := by
  rw [sweepSockets, Action.bind_apply, Action.get_apply]
  dsimp only
  rw [unknown]
  rfl

/-- Sweeping the current directory removes the stale sockets, makes no calls, and writes
nothing but log records. -/
theorem sweepSockets_known {host : Host} {directory : Place}
    (known : host.currentDirectory = .ok directory) :
    (sweepSockets host).1 = .ok () ∧ host.Quiet (sweepSockets host).2 ∧
      Host.Appends { host with files := (host.files.sweep host.directory directory.path).tree }
        (sweepSockets host).2 := by
  have debugs (message : String) : Spares (fun _ => False) (Log.debug message) fun _ => True :=
    (Speaks.debug (fun _ => not_false) message).spares
  let sweep := host.files.sweep host.directory directory.path
  have logs : Spares (fun _ => False)
      (do sweep.refused.forM reportRefused
          if 0 < sweep.removed then Log.debug s!"removed {sweep.removed} stale socket file(s)"
          return (.ok () : Except OsError Unit))
      fun outcome => outcome = .ok () := by
    refine (Discipline.Governs.each fun _ _ => debugs _).bind fun _ _ => ?_
    split
    · exact (debugs _).bind fun _ _ => .value rfl
    · exact .value rfl
  let swept : Host := { host with files := sweep.tree }
  have ran : sweepSockets host =
      (do sweep.refused.forM reportRefused
          if 0 < sweep.removed then Log.debug s!"removed {sweep.removed} stale socket file(s)"
          return (.ok () : Except OsError Unit)) swept := by
    rw [sweepSockets, Action.bind_apply, Action.get_apply]
    dsimp only
    rw [known]
    rfl
  rw [ran]
  obtain ⟨quiet, same⟩ := logs.silent swept trivial
  exact ⟨same, (Host.Quiet.of_journal rfl).trans quiet,
    (appending_letsServe.spares logs swept trivial).1⟩

/-! ## Requests -/

/-- Once the calls of a request begin, they walk its plan. -/
theorem request_walks (sound : frontend.driver.toolchain.Returns) (host : Host) :
    ∃ answers failure, host.Answered (frontend.request source host).2 answers ∧
      Walks (frontend.plan source host) answers failure ∧
        (frontend.request source host).1.1 = .returned
          (match failure with
          | none => .ok (frontend.produced source host)
          | some error => .error (frontend.failure source host error)) := by
  rw [request, Action.bind_apply, Action.get_apply]
  unfold plan produced failure
  dsimp only
  split
  · obtain ⟨answers, failure, result, answered, walks, returned, reports⟩ :=
      Driver.Concludes.run sound (frontend.settings host source false)
        frontend.options.programArguments host
    obtain ⟨stdout, stderr⟩ := Driver.run_captured frontend.driver _ _ sound returned
    refine ⟨answers, failure, answered, walks, ?_⟩
    rw [Action.bind_apply]
    dsimp only [Action.pure_apply]
    rw [returned, Ending.map, ofRun, stdout, stderr]
    cases failure with
    | none => simp [BuildResult.isSuccess, reports.status, captured]
    | some error =>
        simp [BuildResult.isSuccess, BuildResult.errorMessage, reports.status, reports.error,
          captured]
  · obtain ⟨answers, failure, result, answered, walks, returned, reports⟩ :=
      Driver.Concludes.build sound (frontend.settings host source true)
        (frontend.outputFor source) host
    refine ⟨answers, failure, answered, walks, ?_⟩
    rw [Action.bind_apply]
    dsimp only [Action.pure_apply]
    rw [returned, Ending.map, ofBuild]
    cases failure with
    | none => simp [BuildResult.isSuccess, reports.status, reports.path, outputFor]
    | some error =>
        simp [BuildResult.isSuccess, BuildResult.errorMessage, reports.status, reports.error]

/-- Without a source nothing is done. -/
theorem compileAndMaybeRun_missing {host : Host} (absent : ¬ HasSource source host) :
    frontend.compileAndMaybeRun source host =
      ((.returned (.error (.sourceNotFound source)), frontend), host) := by
  have found : host.files.exists? host.directory source = false := Bool.not_eq_true _ |>.mp absent
  rw [compileAndMaybeRun, Action.bind_apply, Action.get_apply]
  simp only [found, Bool.not_false, if_true, Action.pure_apply]

/-- Nothing is done either when the directory to sweep is not known. -/
theorem compileAndMaybeRun_stranded {host : Host} {error : OsError}
    (present : HasSource source host) (strands : frontend.Strands host error) :
    frontend.compileAndMaybeRun source host =
      ((.returned (.error (.io error)), frontend), host) := by
  obtain ⟨cleans, unknown⟩ := strands
  have found : host.files.exists? host.directory source = true := present
  rw [compileAndMaybeRun, Action.bind_apply, Action.get_apply]
  simp only [found, Bool.not_true, Bool.false_eq_true, if_false, cleans, if_true]
  rw [Action.bind_apply, sweepSockets_unknown unknown]
  rfl

/-- Otherwise the calls begin. -/
theorem compileAndMaybeRun_begins {host : Host} (begins : frontend.Begins source host) :
    frontend.compileAndMaybeRun source host = frontend.request source (frontend.begun host) := by
  have found : host.files.exists? host.directory source = true := begins.present
  rw [compileAndMaybeRun, Action.bind_apply, Action.get_apply]
  unfold begun
  simp only [found, Bool.not_true, Bool.false_eq_true, if_false]
  split
  · rename_i cleans
    rw [Action.bind_apply]
    cases known : host.currentDirectory with
    | error error => exact absurd ⟨cleans, known⟩ (begins.goes error)
    | ok directory => rw [(sweepSockets_known known).1]
  · rfl

/-- A request ends in one of the four ways. -/
theorem ends (sound : frontend.driver.toolchain.Returns) (source : Path) (host : Host) :
    ∃ outcome, (frontend.compileAndMaybeRun source host).1.1 = .returned outcome ∧
      Ends frontend source host (frontend.compileAndMaybeRun source host).2 outcome := by
  by_cases present : HasSource source host
  · by_cases goes : ∀ error, ¬ frontend.Strands host error
    · have begins : frontend.Begins source host := ⟨present, goes⟩
      obtain ⟨answers, failure, answered, walks, returned⟩ :=
        request_walks sound (frontend.begun host)
      rw [compileAndMaybeRun_begins begins]
      refine ⟨_, returned, ?_⟩
      cases failure with
      | none => exact .completed begins (walks.completes answered)
      | some error => exact .stopped begins (walks.stops answered)
    · obtain ⟨error, strands⟩ := not_forall_not.mp goes
      rw [compileAndMaybeRun_stranded present strands]
      exact ⟨_, rfl, .stranded present strands⟩
  · rw [compileAndMaybeRun_missing present]
    exact ⟨_, rfl, .missing present⟩

/-- When the calls of a request begin, the sockets have been swept, if they were to be. -/
theorem Begins.swept {host : Host} (begins : frontend.Begins source host)
    (cleans : frontend.options.cleanSockets = true) :
    host.Quiet (frontend.begun host) ∧
      Host.Appends
        { host with files := (host.files.sweep host.directory host.directory.path).tree }
        (frontend.begun host) := by
  rw [begun, if_pos cleans]
  cases known : host.currentDirectory with
  | error error => exact absurd ⟨cleans, known⟩ (begins.goes error)
  | ok directory =>
      obtain ⟨-, quiet, appends⟩ := sweepSockets_known known
      have same : directory = host.directory := by
        unfold Host.currentDirectory at known
        split at known
        · exact (Except.ok.inj known).symm
        · cases known
      exact ⟨quiet, same ▸ appends⟩

theorem begun_of_unswept (keeps : frontend.options.cleanSockets = false) (host : Host) :
    frontend.begun host = host := by
  rw [begun, keeps]
  rfl

/-! ## What is returned when -/

theorem Strands.error_eq {host : Host} {error other : OsError}
    (strands : frontend.Strands host error) (too : frontend.Strands host other) : error = other :=
  Except.error.inj (strands.2.symm.trans too.2)

theorem Strands.not_begins {host : Host} {error : OsError} (strands : frontend.Strands host error) :
    ¬ frontend.Begins source host :=
  fun begins => begins.goes error strands

namespace Ends

variable {before after : Host} {outcome : Except RequestError RunOutput}
  (ended : Ends frontend source before after outcome)

include ended

theorem sourceNotFound (path : Path) :
    outcome = .error (.sourceNotFound path) ↔ path = source ∧ ¬ HasSource source before := by
  cases ended with
  | missing absent => simp [absent, eq_comm]
  | stranded present => simp [present]
  | completed begins => simp [begins.present]
  | stopped begins =>
      unfold failure
      split <;> simp [begins.present]

theorem io (error : OsError) :
    outcome = .error (.io error) ↔ HasSource source before ∧ frontend.Strands before error := by
  cases ended with
  | missing absent => simp [absent]
  | stranded present strands =>
      simp only [Except.error.injEq, RequestError.io.injEq]
      constructor
      · rintro rfl
        exact ⟨present, strands⟩
      · exact fun both => strands.error_eq both.2
  | completed begins => simp [begins.goes]
  | stopped begins =>
      unfold failure
      split <;> simp [begins.goes]

theorem ok (output : RunOutput) :
    outcome = .ok output ↔
      frontend.Begins source before ∧
        Host.Completes (frontend.plan source (frontend.begun before)) (frontend.begun before)
            after ∧
          output = frontend.produced source (frontend.begun before) := by
  cases ended with
  | missing absent => simpa using fun begins : Begins _ _ _ => absurd begins.present absent
  | stranded present strands =>
      simpa using fun begins : Begins _ _ _ => absurd begins strands.not_begins
  | completed begins completes => simp [begins, completes, eq_comm]
  | stopped begins stops =>
      simpa using fun _ completes => absurd stops (Host.Completes.not_stops completes)

/-- What is neither about the source nor about the sweep is about the call that has failed. -/
theorem failed {reported : RequestError} (notSource : ∀ path, reported ≠ .sourceNotFound path)
    (notSweep : ∀ error, reported ≠ .io error) :
    outcome = .error reported ↔
      frontend.Begins source before ∧
        ∃ error, Host.Stops (frontend.plan source (frontend.begun before)) error
            (frontend.begun before) after ∧
          reported = frontend.failure source (frontend.begun before) error := by
  cases ended with
  | missing absent =>
      constructor
      · rintro ⟨⟩
        exact absurd rfl (notSource source)
      · rintro ⟨begins, -⟩
        exact absurd begins.present absent
  | @stranded present error strands =>
      constructor
      · rintro ⟨⟩
        exact absurd rfl (notSweep error)
      · rintro ⟨begins, -⟩
        exact absurd begins strands.not_begins
  | completed begins completes =>
      constructor
      · nofun
      · rintro ⟨-, error, stops, -⟩
        exact absurd stops completes.not_stops
  | stopped begins stops =>
      constructor
      · rintro ⟨⟩
        exact ⟨begins, _, stops, rfl⟩
      · rintro ⟨-, error, too, rfl⟩
        rw [stops.error_eq too]

theorem runFailed (message stdout stderr : String) :
    outcome = .error (.runFailed message stdout stderr) ↔
      frontend.options.runAfterBuild = true ∧ frontend.Begins source before ∧
        (∃ error, Host.Stops (frontend.plan source (frontend.begun before)) error
          (frontend.begun before) after ∧ message = error.message) ∧
        stdout = (frontend.captured source (frontend.begun before)).stdout ∧
          stderr = (frontend.captured source (frontend.begun before)).stderr := by
  rw [ended.failed (fun _ => RequestError.noConfusion) fun _ => RequestError.noConfusion]
  unfold failure
  cases frontend.options.runAfterBuild with
  | false => simp
  | true =>
      simp only [if_true, RequestError.runFailed.injEq, true_and]
      constructor
      · rintro ⟨begins, error, stops, rfl, rfl, rfl⟩
        exact ⟨begins, ⟨error, stops, rfl⟩, rfl, rfl⟩
      · rintro ⟨begins, ⟨error, stops, rfl⟩, rfl, rfl⟩
        exact ⟨begins, error, stops, rfl, rfl, rfl⟩

theorem buildFailed (message : String) :
    outcome = .error (.buildFailed message) ↔
      frontend.options.runAfterBuild = false ∧ frontend.Begins source before ∧
        ∃ error, Host.Stops (frontend.plan source (frontend.begun before)) error
          (frontend.begun before) after ∧ message = error.message := by
  rw [ended.failed (fun _ => RequestError.noConfusion) fun _ => RequestError.noConfusion]
  unfold failure
  cases frontend.options.runAfterBuild <;> simp

theorem classifies : Classifies frontend source before after outcome where
  sourceNotFound := ended.sourceNotFound
  io := ended.io
  ok := ended.ok
  runFailed := ended.runFailed
  buildFailed := ended.buildFailed
  resourceCreation path error same := by
    obtain ⟨-, other, -, reported⟩ := (ended.failed (fun _ => RequestError.noConfusion)
      fun _ => RequestError.noConfusion).mp same
    unfold failure at reported
    split at reported <;> cases reported
  notBlank message told := by
    rcases told with ⟨stdout, stderr, same⟩ | same
    · obtain ⟨-, -, ⟨error, -, rfl⟩, -⟩ := (ended.runFailed message stdout stderr).mp same
      exact error.message_not_blank
    · obtain ⟨-, -, error, -, rfl⟩ := (ended.buildFailed message).mp same
      exact error.message_not_blank
  attached stdout stderr := by
    constructor
    · rintro ⟨error, rfl, attached⟩
      cases error with
      | runFailed message =>
          cases attached
          exact ⟨message, rfl⟩
      | sourceNotFound | buildFailed | resourceCreation | io => cases attached
    · rintro ⟨message, same⟩
      exact ⟨_, same, rfl⟩
  untouched notBegun := by
    cases ended with
    | missing | stranded => rfl
    | completed begins | stopped begins => exact absurd begins notBegun

end Ends

/-- The front end classifies every outcome.  With a toolchain whose calls all return, a request
returns, and what it returns tells exactly what has happened: whether there was a source,
whether stale sockets could be swept before anything else, and whether the calls have walked
their plan to the end.  Nothing is swept, and no call is made, without a source. -/
theorem requests_are_classified (frontend : Frontend σ) (sound : frontend.driver.toolchain.Returns)
    (source : Path) (host : Host) :
    (∃ outcome, (frontend.compileAndMaybeRun source host).1.1 = .returned outcome ∧
      Classifies frontend source host (frontend.compileAndMaybeRun source host).2 outcome) ∧
    (frontend.Begins source host → frontend.options.cleanSockets = true →
      host.Quiet (frontend.begun host) ∧
        Host.Appends
          { host with files := (host.files.sweep host.directory host.directory.path).tree }
          (frontend.begun host)) ∧
    (frontend.options.cleanSockets = false → frontend.begun host = host) := by
  obtain ⟨outcome, returned, ended⟩ := ends sound source host
  exact ⟨⟨outcome, returned, ended.classifies⟩, Begins.swept,
    fun keeps => begun_of_unswept keeps host⟩

/-- A program that fails half-way: the request reports its message with what it has written
before, and without a source the same request reports that.  A request to build the program
returns the path that its options name, and the derived one when they name none. -/
theorem requests_are_classified_failing_run :
    let host := Host.withSource "prog.py"
    let toolchain := Driver.splitCharacter.toolchain Driver.echoing
    let frontend := withToolchain host { codonPath := [] } toolchain
    let source := Bytes.ofText "prog.py"
    let missing := Bytes.ofText "other.py"
    let named := withToolchain host
      { codonPath := [], runAfterBuild := false, outputPath := some (Bytes.ofText "bin/tool") }
      toolchain
    let unnamed := withToolchain host { codonPath := [], runAfterBuild := false } toolchain
    Classifies frontend source host (frontend.compileAndMaybeRun source host).2
        (.error (.runFailed "broken" "child\n€" "\uFFFD")) ∧
      Classifies frontend missing host (frontend.compileAndMaybeRun missing host).2
        (.error (.sourceNotFound missing)) ∧
      Classifies named source host (named.compileAndMaybeRun source host).2
        (.ok { outputPath := some (Bytes.ofText "bin/tool") }) ∧
      Classifies unnamed source host (unnamed.compileAndMaybeRun source host).2
        (.ok { outputPath := some (Bytes.ofText "prog") }) := by
  intro host toolchain frontend source missing named unnamed
  have calm : Driver.splitCharacter.IsCalm := by
    constructor <;> simp [ScriptPhase.IsCalm, Driver.splitCharacter]
  have sound : toolchain.Returns := ToolchainScript.returns_of_isCalm _ calm
  have classified {frontend : Frontend Unit} {source : Path}
      {outcome : Except RequestError RunOutput} (sound : frontend.driver.toolchain.Returns)
      (reported : (frontend.compileAndMaybeRun source host).1.1 = .returned outcome) :
      Classifies frontend source host (frontend.compileAndMaybeRun source host).2 outcome := by
    obtain ⟨⟨other, returned, classifies⟩, -⟩ :=
      requests_are_classified frontend sound source host
    obtain rfl := Ending.returned.inj (reported.symm.trans returned)
    exact classifies
  refine ⟨classified sound ?_, classified sound ?_, classified sound ?_, classified sound ?_⟩
  all_goals decide +kernel

end Frontend

end CompileDriver
