import CompileDriver.Host.Start
import CompileDriver.Proofs.Toolchain.Scripted

/-!
# Requests walk their session

A request to run or to build a program has a plan: the calls that it makes on
its session when nothing fails.  `Concludes` is the rule for the parts of a
request that end with its result; the main theorem says of both requests which
calls they make and what their result tells.
-/

namespace CompileDriver.Driver

variable {σ ρ : Type} {plan rest : List SessionCall}

/-- The calls of a request to run a program. -/
def runCalls (settings : Settings) (arguments : List String) : List SessionCall :=
  .create settings.optimisation ::
    (preparation settings ++ [.run (settings.input.display :: arguments) settings.libs])

/-- The calls of a request to build a program, of which the last one hands on what the settings
say about linking. -/
def buildCalls (settings : Settings) (output : Path) : List SessionCall :=
  .create settings.optimisation ::
    (preparation settings ++
      [.link output
        { argv0 := settings.argv0
          sharedLib := settings.sharedLib
          libs := settings.libs
          linkerFlags := settings.linkerFlags }])

theorem link_mem_buildCalls (settings : Settings) (output : Path) :
    .link output settings.linkOptions ∈ buildCalls settings output :=
  List.mem_cons_of_mem _ (List.mem_append_right _ List.mem_cons_self)

/-! ## Results -/

/-- What the result of a request says about the calls that were answered and
their failure; `output` is what a request writes when it succeeds. -/
structure Reports (output : Option Path) (answers : List Answer)
    (failure : Option ToolchainError) (result : BuildResult) : Prop where
  status : result.status = if failure.isSome then 1 else 0
  error : result.error = failure.map ToolchainError.message
  path : result.outputPath = if failure.isSome then none else output
  /-- Only a program that was run has an output. -/
  texts : (∀ arguments libs, SessionCall.run arguments libs ∉ answers.map Prod.fst) →
    result.stdout = "" ∧ result.stderr = ""

theorem Reports.failure (output : Option Path) (answers : List Answer) (error : ToolchainError) :
    Reports output answers (some error) (.failure error.message) :=
  ⟨rfl, rfl, rfl, fun _ => ⟨rfl, rfl⟩⟩

theorem Reports.later {output : Option Path} {more : List Answer}
    {failure : Option ToolchainError} {result : BuildResult}
    (reports : Reports output more failure result) (answers : List Answer) :
    Reports output (answers ++ more) failure result where
  status := reports.status
  error := reports.error
  path := reports.path
  texts := by
    intro notRun
    refine reports.texts fun arguments libs member => notRun arguments libs ?_
    rw [List.map_append]
    exact List.mem_append_right _ member

/-- Whatever the host, the action makes calls along the plan and returns a
result that reports the walk. -/
def Concludes (output : Option Path) (plan : List SessionCall)
    (action : Action (Ending BuildResult × ρ)) : Prop :=
  ∀ host : Host, ∃ answers failure result,
    host.Answered (action host).2 answers ∧ Walks plan answers failure ∧
      (action host).1.1 = .returned result ∧ Reports output answers failure result

namespace Concludes

variable {output : Option Path}

theorem after {α : Type} {first : Action α} {yields : α → Prop} (silent : Silent first yields)
    {next : α → Action (Ending BuildResult × ρ)}
    (concludes : ∀ value, Concludes output plan (next value)) :
    Concludes output plan (first >>= next) := by
  intro host
  obtain ⟨answers, failure, result, made, rest⟩ := concludes (first host).1 (first host).2
  exact ⟨answers, failure, result, (silent.answered host).trans made, rest⟩

/-- What comes along with the result does not matter. -/
theorem keep {ρ' : Type} {first : Action (Ending BuildResult × ρ)}
    (concludes : Concludes output plan first) (change : ρ → ρ') :
    Concludes output plan
      (first >>= fun reached => pure (reached.1, change reached.2)) :=
  concludes

/-- Nothing more is called: a result that reports the walk is returned. -/
theorem finish {first : Action (CallEnd × σ)} (follows : Follows plan first)
    {next : CallEnd × σ → Action (Ending BuildResult × ρ)}
    (ends : ∀ ended reached answers, ended.returns = true → Walks plan answers ended.failure? →
      Silent (next (ended, reached)) fun last =>
        ∃ result, last.1 = .returned result ∧ Reports output answers ended.failure? result) :
    Concludes output plan (first >>= next) := by
  intro host
  obtain ⟨answers, made, walks, returns⟩ := follows host
  have silent := ends (first host).1.1 (first host).1.2 answers returns walks
  obtain ⟨result, returned, reports⟩ := (silent (first host).2 trivial).2
  exact ⟨answers, _, result, by simpa using made.trans (silent.answered (first host).2), walks,
    returned, reports⟩

/-- Go on with a plan after a success; after a failure, report it without making
further calls. -/
theorem bind {first : Action (CallEnd × σ)} (follows : Follows plan first)
    {next : CallEnd × σ → Action (Ending BuildResult × ρ)}
    (goes : ∀ reached, Concludes output rest (next (.succeeded, reached)))
    (stops : ∀ error reached, Silent (next (.failed error, reached)) fun last =>
      last.1 = .returned (.failure error.message)) :
    Concludes output (plan ++ rest) (first >>= next) := by
  intro host
  obtain ⟨answers, made, walks, returns⟩ := follows host
  rw [Action.bind_apply]
  rcases ended : (first host).1 with ⟨_ | error | panic, reached⟩
  · rw [ended] at walks
    obtain ⟨more, failure, result, madeMore, last, returned, reports⟩ :=
      goes reached (first host).2
    exact ⟨answers ++ more, failure, result, made.trans madeMore, walks.append last, returned,
      reports.later answers⟩
  · rw [ended] at walks
    have silent := stops error reached
    refine ⟨answers, some error, .failure error.message, ?_, walks.stop rest,
      (silent (first host).2 trivial).2, .failure output answers error⟩
    simpa using made.trans (silent.answered (first host).2)
  · rw [ended] at returns
    cases returns

variable {driver : Driver σ}

/-- Creating the session is the first call, and it succeeds. -/
theorem create (sound : driver.toolchain.Returns) (settings : Settings)
    {next : Except Panic σ → Action (Ending BuildResult × ρ)}
    (goes : ∀ session, Concludes output plan (next (.ok session))) :
    Concludes output (.create settings.optimisation :: plan)
      (create driver.toolchain settings >>= next) := by
  intro host
  let call := SessionCall.create settings.optimisation
  obtain ⟨⟨session, created⟩, quiet⟩ := sound.create settings (host.note (.sessionCall call))
  rcases ended : driver.toolchain.createSession settings (host.note (.sessionCall call)) with
    ⟨outcome, after⟩
  rw [ended] at created quiet
  obtain rfl : outcome = .ok session := created
  have ran : Driver.create driver.toolchain settings host =
      (.ok session, after.note (.sessionReturn call none)) := by
    simp only [Driver.create, Action.bind_apply, Action.modify_apply]
    rw [ended]
    rfl
  obtain ⟨answers, failure, result, made, walks, returned, reports⟩ :=
    goes session (after.note (.sessionReturn call none))
  rw [Action.bind_apply, ran]
  have first := Host.Answered.of_call host call quiet none
  exact ⟨(call, none) :: answers, failure, result, first.trans made, walks.next call, returned,
    reports.later [(call, none)]⟩

/-! ## Requests -/

theorem close (sound : driver.toolchain.Returns) (session : σ) :
    Silent (driver.toolchain.close session) fun _ => True :=
  fun host _ => ⟨sound.close session host, trivial⟩

theorem runPrepared (sound : driver.toolchain.Returns) (settings : Settings)
    (arguments : List String) (session : σ) (timings : Timings) :
    Concludes none [.run (programArguments settings arguments) settings.libs]
      (driver.runPrepared settings arguments session timings) := by
  have noneForeign (stream : Stream) : ¬ (fun _ : Nat => False) stream.number := not_false
  refine after (Spares.startCapture noneForeign driver).silent ?_
  rintro ⟨capturing, capture⟩
  refine finish ((Follows.calling sound session (.run _ _)).timed "run" timings) ?_
  rintro ended ⟨session, timings⟩ answers returns walks
  have reached : SessionCall.run (programArguments settings arguments) settings.libs ∈
      answers.map Prod.fst := by
    rw [walks.calls_single]
    exact List.mem_singleton_self _
  have closed (result : BuildResult) : Silent
      (do reportTimings timings
          driver.toolchain.close session
          return (Ending.returned result, timings))
      fun last => last.1 = .returned result :=
    (Speaks.reportTimings noneForeign timings).spares.silent.bind fun _ _ =>
      (close sound session).bind fun _ _ => .value rfl
  have collected (result : CapturedOutput → BuildResult)
      (reports : ∀ output, Reports none answers ended.failure? (result output)) :
      Silent
        (do let output ← if capturing then capture.intoOutput else pure {}
            reportTimings timings
            driver.toolchain.close session
            return (Ending.returned (result output), timings))
        fun last =>
          ∃ result, last.1 = .returned result ∧ Reports none answers ended.failure? result := by
    dsimp only
    split
    · refine (Spares.intoOutput noneForeign capture.own_none).silent.bind fun output _ => ?_
      exact (closed (result output)).weaken fun _ returned => ⟨_, returned, reports output⟩
    · have nothing : Silent (pure {} : Action CapturedOutput) fun _ => True := .value trivial
      refine nothing.bind fun output _ => ?_
      exact (closed (result output)).weaken fun _ returned => ⟨_, returned, reports output⟩
  rcases ended with _ | error | panic
  · exact collected .ran fun output => ⟨rfl, rfl, rfl, fun notRun => absurd reached (notRun _ _)⟩
  · exact collected (fun output => (BuildResult.failure error.message).withOutput output)
      fun output => ⟨rfl, rfl, rfl, fun notRun => absurd reached (notRun _ _)⟩
  · cases returns

/-- The request gives up the suppressor and the session and reports its result
after the last call. -/
theorem closing (sound : driver.toolchain.Returns) (suppressor : Suppressor) (session : σ)
    (timings : Timings) (ending : Ending BuildResult × Driver σ) :
    Silent
      (do discard suppressor.restore
          reportTimings timings
          driver.toolchain.close session
          return ending)
      fun last => last = ending := by
  have noneForeign (stream : Stream) : ¬ (fun _ : Nat => False) stream.number := not_false
  have restored := (Spares.restoreSuppressor noneForeign suppressor.own_none).silent.discarded
  refine restored.bind fun _ _ => ?_
  refine (Speaks.reportTimings noneForeign timings).spares.silent.bind fun _ _ => ?_
  exact (close sound session).bind fun _ _ => .value rfl

theorem run (sound : driver.toolchain.Returns) (settings : Settings) (arguments : List String) :
    Concludes none (runCalls settings arguments) (driver.run settings arguments) := by
  have noneForeign (stream : Stream) : ¬ (fun _ : Nat => False) stream.number := not_false
  refine after (Spares.engage noneForeign .stderr settings.quiet).silent fun suppressor => ?_
  refine create sound settings fun session => ?_
  refine bind (Follows.prepare sound settings session) ?_ ?_
  · rintro ⟨session, timings⟩
    refine after (Spares.restoreSuppressor noneForeign suppressor.own_none).silent.discarded
      fun _ => ?_
    exact (runPrepared sound settings arguments session timings).keep fun timings =>
      { driver with timings }
  · rintro error ⟨session, timings⟩
    exact (closing sound suppressor session timings _).weaken fun last same => by rw [same]

theorem build (sound : driver.toolchain.Returns) (settings : Settings) (output : Path) :
    Concludes (some output) (buildCalls settings output) (driver.build settings output) := by
  have noneForeign (stream : Stream) : ¬ (fun _ : Nat => False) stream.number := not_false
  refine after (Spares.engage noneForeign .stderr settings.quiet).silent fun suppressor => ?_
  refine create sound settings fun session => ?_
  refine finish (Follows.link sound settings output session) ?_
  rintro ended ⟨session, timings⟩ answers returns walks
  rcases ended with _ | error | panic
  · refine (closing sound suppressor session timings _).weaken fun last same => ?_
    refine ⟨.built output, by rw [same], rfl, rfl, rfl, fun _ => ⟨rfl, rfl⟩⟩
  · refine (closing sound suppressor session timings _).weaken fun last same => ?_
    exact ⟨_, by rw [same], .failure (some output) answers error⟩
  · cases returns

end Concludes

/-- A request that was answered along a plan, and its result. -/
structure Walked (plan : List SessionCall) (output : Option Path) (before after : Host)
    (failure : Option ToolchainError) (result : BuildResult) : Prop where
  /-- The calls are the first ones of the plan, in its order. -/
  calls : after.callsSince before <+: plan
  /-- Every call that was made has returned. -/
  answered : (after.answersSince before).map Prod.fst = after.callsSince before
  /-- Without a failure the whole plan was called. -/
  success : failure = none → after.callsSince before = plan ∧
    ∀ answer ∈ after.answersSince before, answer.2 = none
  /-- The failure is the answer to the last call, and the only one. -/
  stopped : ∀ error, failure = some error → ∃ earlier call,
    after.answersSince before = earlier ++ [(call, some error)] ∧
      ∀ answer ∈ earlier, answer.2 = none
  status : result.status = if failure.isSome then 1 else 0
  error : result.error = failure.map fun error =>
    if Text.isAllBlank error.rendered then "unknown compilation error" else error.rendered
  notBlank : ∀ message, result.error = some message → Text.isAllBlank message = false
  path : result.outputPath = if failure.isSome then none else output
  /-- Only a program that was run has an output. -/
  texts : (∀ arguments libs, SessionCall.run arguments libs ∉ after.callsSince before) →
    result.stdout = "" ∧ result.stderr = ""

theorem Concludes.walked {output : Option Path} {action : Action (Ending BuildResult × ρ)}
    (concludes : Concludes output plan action) (host : Host) :
    ∃ failure result, (action host).1.1 = .returned result ∧
      Walked plan output host (action host).2 failure result := by
  obtain ⟨answers, failure, result, made, walks, returned, reports⟩ := concludes host
  refine ⟨failure, result, returned, ?_⟩
  have answersMade := made.answers
  have callsMade := made.calls
  exact
    { calls := callsMade ▸ walks.calls_prefix
      answered := by rw [answersMade, callsMade]
      success := by
        rintro rfl
        rw [answersMade, callsMade]
        exact ⟨walks.calls_of_success, walks.answers_of_success⟩
      stopped := by
        rintro error rfl
        rw [answersMade]
        exact walks.failure_last
      status := reports.status
      error := reports.error
      notBlank := by
        intro message told
        rw [reports.error, Option.map_eq_some_iff] at told
        obtain ⟨error, -, rfl⟩ := told
        exact error.message_not_blank
      path := reports.path
      texts := callsMade ▸ reports.texts }

/-- A request walks the session in order and stops at the first failure.  With
a toolchain whose calls all return, the calls of a request to run or to build a
program are the first ones of its plan, up to the one that fails, and the result
tells the failure, or that there was none. -/
theorem requests_walk_session (driver : Driver σ) (sound : driver.toolchain.Returns)
    (settings : Settings) (host : Host) :
    (∀ arguments, ∃ failure result,
      (driver.run settings arguments host).1.1 = .returned result ∧
        Walked (runCalls settings arguments) none host (driver.run settings arguments host).2
          failure result) ∧
      ∀ output, ∃ failure result,
        (driver.build settings output host).1.1 = .returned result ∧
          Walked (buildCalls settings output) (some output) host
            (driver.build settings output host).2 failure result :=
  ⟨fun arguments => (Concludes.run sound settings arguments).walked host,
    fun output => (Concludes.build sound settings output).walked host⟩

/-- A script in which one plugin fails to load and does not say why. -/
def brokenPlugin : ToolchainScript :=
  { plugin :=
      { only := some "plugin second", failure := some { kind := .plugin, rendered := " \n" } } }

/-- A request with three plugins stops at the second one, which does not load, and says so in
words.  A request to build a shared library with further libraries and flags links it with
these. -/
theorem requests_walk_session_broken_plugin :
    let driver : Driver Unit :=
      { toolchain := brokenPlugin.toolchain fun _ _ => .error .notFound }
    let settings : Settings :=
      { argv0 := [], input := [], plugins := ["first", "second", "third"] }
    let linked : Settings :=
      { argv0 := Bytes.ofText "/opt/codon", input := Bytes.ofText "lib.codon",
        plugins := ["first"], libs := ["m", "gmp"], linkerFlags := "-s", sharedLib := true }
    let output := Bytes.ofText "lib.so"
    let host : Host := { table := .standard }
    (∃ failure result, (driver.run settings ["x"] host).1.1 = .returned result ∧
      Walked (runCalls settings ["x"]) none host (driver.run settings ["x"] host).2
        failure result) ∧
      (driver.run settings ["x"] host).2.callsSince host =
        [.create .debug, .plugin "first", .plugin "second"] ∧
      (∃ result, (driver.run settings ["x"] host).1.1 = .returned result ∧
        result.error = some "unknown compilation error") ∧
      (∃ failure result, (driver.build linked output host).1.1 = .returned result ∧
        Walked (buildCalls linked output) (some output) host
          (driver.build linked output host).2 failure result) ∧
      (driver.build linked output host).2.callsSince host =
        [.create .debug, .plugin "first", .parse (Bytes.ofText "lib.codon"), .compile,
          .link (Bytes.ofText "lib.so")
            { argv0 := Bytes.ofText "/opt/codon", sharedLib := true, libs := ["m", "gmp"],
              linkerFlags := "-s" }] ∧
      (driver.build linked output host).1.1 = .returned (.built output) := by
  intro driver settings linked output host
  have calm : brokenPlugin.IsCalm := by
    constructor <;> intro message member <;> cases member
  have sound : driver.toolchain.Returns := ToolchainScript.returns_of_isCalm _ calm
  refine ⟨(requests_walk_session driver sound settings host).1 ["x"], by decide +kernel,
    ⟨_, rfl, rfl⟩, ?_⟩
  exact ⟨(requests_walk_session driver sound linked host).2 output, by decide +kernel,
    by decide +kernel⟩

end CompileDriver.Driver
