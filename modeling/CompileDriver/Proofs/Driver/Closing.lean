import CompileDriver.Proofs.Driver.Invariant

/-!
# Requests by stages

A session is fresh until it has compiled, and a compiled session runs or links.  A toolchain
proceeds by stages when every call leads from the assertion of its stage to that of the next
one, or, when it fails, to what holds of sessions that are given up; and no call panics.

The last thing that a request does is to close its session.  `Driver.leaving` is the same
driver except that it leaves its sessions open, so that the state in which a session is closed
can be spoken about: requests end in closing a session of the stage that they have reached.
-/

namespace CompileDriver

variable {σ ρ : Type}

/-- The toolchain, with sessions that are never closed. -/
def Toolchain.leaving (toolchain : Toolchain σ) : Toolchain σ :=
  { toolchain with close := fun _ => return () }

/-- The driver that does everything but close its sessions. -/
def Driver.leaving (driver : Driver σ) : Driver σ :=
  { driver with toolchain := driver.toolchain.leaving }

namespace Driver

theorem loadPlugins_leaving (driver : Driver σ) (names : List String) (session : σ) :
    loadPlugins driver.leaving.toolchain session names =
      loadPlugins driver.toolchain session names := by
  induction names generalizing session with
  | nil => rfl
  | cons name rest ih =>
      simp only [loadPlugins, ih]
      rfl

/-- Nothing changes while a program is prepared. -/
theorem prepare_leaving (driver : Driver σ) (settings : Settings) (session : σ) :
    prepare driver.leaving.toolchain settings session =
      prepare driver.toolchain settings session := by
  unfold prepare
  rw [loadPlugins_leaving]
  rfl

theorem link_leaving (driver : Driver σ) (settings : Settings) (output : Path) (session : σ) :
    driver.leaving.link settings output session = driver.link settings output session := by
  unfold link
  rw [prepare_leaving]
  rfl

end Driver

/-! ## Calls -/

/-- Where a call leads that succeeded or failed.  It has not panicked. -/
def CallEnd.Reaches (done stopped : ρ → Host → Prop) (reached : CallEnd × ρ) (host : Host) :
    Prop :=
  match reached.1 with
  | .succeeded => done reached.2 host
  | .failed _ => stopped reached.2 host
  | .panicked _ => False

/-- The action leads to one assertion when it succeeds and to another one when it fails. -/
def Leads (pre : Host → Prop) (action : Action (CallEnd × ρ)) (done stopped : ρ → Host → Prop) :
    Prop :=
  Ensures pre action (CallEnd.Reaches done stopped)

namespace Leads

variable {pre : Host → Prop} {done stopped middle : ρ → Host → Prop}

theorem succeeded {result : ρ} (known : ∀ host, pre host → done result host) :
    Leads pre (pure (.succeeded, result)) done stopped :=
  known

theorem failed {error : ToolchainError} {result : ρ}
    (known : ∀ host, pre host → stopped result host) :
    Leads pre (pure (.failed error, result)) done stopped :=
  known

theorem bind {first : Action (CallEnd × ρ)} {next : CallEnd × ρ → Action (CallEnd × ρ)}
    (leads : Leads pre first middle stopped)
    (goes : ∀ result, Leads (middle result) (next (.succeeded, result)) done stopped)
    (stops : ∀ error result, next (.failed error, result) = pure (.failed error, result)) :
    Leads pre (first >>= next) done stopped := by
  refine Ensures.bind leads fun reached => ?_
  rcases reached with ⟨_ | error | panic, result⟩
  · exact goes result
  · rw [stops]
    exact failed fun _ known => known
  · exact fun _ impossible => impossible.elim

variable {reached given : σ → Host → Prop}

/-- Looking at the clock changes nothing. -/
theorem timed {phase : Action (CallEnd × σ)}
    (lastingReached : ∀ session, Host.Lasting (reached session))
    (lastingGiven : ∀ session, Host.Lasting (given session)) (leads : Leads pre phase reached given)
    (name : String) (timings : Timings) :
    Leads pre (Driver.timed name timings phase) (fun result => reached result.1)
      fun result => given result.1 := by
  intro host holding
  obtain ⟨later, measurements, ran⟩ := Driver.timed_apply name timings phase host
  have led := leads host holding
  rw [ran]
  have clock : Host.Appends (phase host).2 { (phase host).2 with measurements } :=
    .of_same rfl rfl rfl rfl
  rcases ended : (phase host).1 with ⟨_ | error | panic, session⟩
  all_goals rw [ended] at led
  · exact lastingReached session clock led
  · exact lastingGiven session clock led
  · exact led.elim

/-- Neither does taking notes of a call. -/
theorem calling {toolchain : Toolchain σ} (lasting : Host.Lasting pre)
    (lastingReached : ∀ session, Host.Lasting (reached session))
    (lastingGiven : ∀ session, Host.Lasting (given session)) {session : σ} (call : SessionCall)
    (leads : Leads pre (toolchain.perform session call) reached given) :
    Leads pre (Driver.calling call (toolchain.perform session call)) reached given := by
  refine (Ensures.note lasting _).bind fun _ => Ensures.bind leads fun last => ?_
  rcases last with ⟨_ | error | panic, session⟩
  · exact (Ensures.note (lastingReached session) _).bind fun _ => succeeded fun _ known => known
  · exact (Ensures.note (lastingGiven session) _).bind fun _ => failed fun _ known => known
  · exact fun _ impossible => impossible.elim

end Leads

/-! ## Stages -/

/-- Every call leads from its stage to the next one, or to what holds of a session that is
given up. -/
structure Toolchain.Proceeds (toolchain : Toolchain σ) (start : Host → Prop)
    (fresh compiled ended : σ → Host → Prop) (linked : Path → σ → Host → Prop) : Prop where
  lastingStart : Host.Lasting start
  lastingFresh : ∀ session, Host.Lasting (fresh session)
  lastingCompiled : ∀ session, Host.Lasting (compiled session)
  lastingEnded : ∀ session, Host.Lasting (ended session)
  lastingLinked : ∀ output session, Host.Lasting (linked output session)
  create : ∀ settings, Ensures start (toolchain.createSession settings) fun outcome host =>
    match outcome with
    | .error _ => False
    | .ok session => fresh session host
  plugin : ∀ session name, Leads (fresh session) (toolchain.loadPlugin session name) fresh ended
  parse : ∀ session input, Leads (fresh session) (toolchain.parseFile session input) fresh ended
  compile : ∀ session, Leads (fresh session) (toolchain.compile session) compiled ended
  run : ∀ session arguments libs,
    Leads (compiled session) (toolchain.run session arguments libs) ended ended
  link : ∀ session output options,
    Leads (compiled session) (toolchain.writeExecutable session output options) (linked output)
      ended

namespace Driver

/-- The request returns a result and closes a session, of which something holds in the state
that the other action leaves. -/
def Closes {β : Type} (toolchain : Toolchain σ) (pre : Host → Prop)
    (request : Action (Ending BuildResult × ρ)) (unclosed : Action β)
    (post : BuildResult → σ → Host → Prop) : Prop :=
  ∀ host, pre host → ∃ result session, (request host).1.1 = .returned result ∧
    post result session (unclosed host).2 ∧
      (request host).2 = (toolchain.close session (unclosed host).2).2

namespace Closes

variable {α β γ : Type} {toolchain : Toolchain σ} {pre : Host → Prop}
  {middle : α → Host → Prop} {post : BuildResult → σ → Host → Prop}

theorem after {first : Action α} {request : α → Action (Ending BuildResult × ρ)}
    {unclosed : α → Action β} (ensures : Ensures pre first middle)
    (closes : ∀ value, Closes toolchain (middle value) (request value) (unclosed value) post) :
    Closes toolchain pre (first >>= request) (first >>= unclosed) post :=
  fun host holding => closes _ _ (ensures host holding)

/-- What comes along with the result does not matter. -/
theorem keep {ρ' : Type} {request : Action (Ending BuildResult × ρ)} {unclosed : Action β}
    (closes : Closes toolchain pre request unclosed post) (change : ρ → ρ') (other : β → γ) :
    Closes toolchain pre (request >>= fun reached => pure (reached.1, change reached.2))
      (unclosed >>= fun reached => pure (other reached)) post :=
  closes

/-- The request reports its times and closes the session. -/
theorem closing {holds : Host → Prop} (lasting : Host.Lasting holds) (session : σ)
    (timings : Timings) {result : BuildResult} (last : ρ) (other : β)
    (known : ∀ host, holds host → post result session host) :
    Closes toolchain holds
      (do reportTimings timings
          toolchain.close session
          return (.returned result, last))
      (do reportTimings timings
          return other) post := by
  refine after (Ensures.serve lasting (appending_letsServe.reportTimings timings)) fun _ => ?_
  exact fun host holding => ⟨result, session, rfl, known host holding, rfl⟩

/-- Before that, it puts the stream back. -/
theorem restoring {holds : Host → Prop} (lasting : Host.Lasting holds) (suppressor : Suppressor)
    (session : σ) (timings : Timings) {result : BuildResult} (last : ρ) (other : β)
    (known : ∀ host, holds host → post result session host) :
    Closes toolchain holds
      (do discard suppressor.restore
          reportTimings timings
          toolchain.close session
          return (.returned result, last))
      (do discard suppressor.restore
          reportTimings timings
          return other) post :=
  after (Ensures.serve lasting (appending_letsServe.restoreSuppressor suppressor)) fun _ =>
    closing lasting session timings last other known

end Closes

variable {driver : Driver σ} {start : Host → Prop} {fresh compiled ended : σ → Host → Prop}
  {linked : Path → σ → Host → Prop}
  (proceeds : driver.toolchain.Proceeds start fresh compiled ended linked)

include proceeds

/-! ## Preparing -/

theorem leads_loadPlugins (names : List String) (session : σ) :
    Leads (fresh session) (loadPlugins driver.toolchain session names) fresh ended := by
  induction names generalizing session with
  | nil => exact .succeeded fun _ holding => holding
  | cons name rest ih =>
      have loading := Leads.calling (proceeds.lastingFresh session) proceeds.lastingFresh
        proceeds.lastingEnded (.plugin name) (proceeds.plugin session name)
      exact loading.bind ih fun _ _ => rfl

theorem leads_prepare (settings : Settings) (session : σ) :
    Leads (fresh session) (prepare driver.toolchain settings session)
      (fun reached => compiled reached.1) fun reached => ended reached.1 := by
  have loading := (leads_loadPlugins proceeds settings.plugins session).timed
    proceeds.lastingFresh proceeds.lastingEnded "plugins" {}
  refine loading.bind ?_ fun _ _ => rfl
  rintro ⟨session, timings⟩
  have parsing := Leads.calling (proceeds.lastingFresh session) proceeds.lastingFresh
    proceeds.lastingEnded (.parse settings.input) (proceeds.parse session settings.input)
  refine (parsing.timed proceeds.lastingFresh proceeds.lastingEnded "parse" timings).bind ?_
    fun _ _ => rfl
  rintro ⟨session, timings⟩
  have compiling := Leads.calling (proceeds.lastingFresh session) proceeds.lastingCompiled
    proceeds.lastingEnded .compile (proceeds.compile session)
  exact compiling.timed proceeds.lastingCompiled proceeds.lastingEnded "compile" timings

theorem leads_link (settings : Settings) (output : Path) (session : σ) :
    Leads (fresh session) (driver.link settings output session)
      (fun reached => linked output reached.1) fun reached => ended reached.1 := by
  refine (leads_prepare proceeds settings session).bind ?_ fun _ _ => rfl
  rintro ⟨session, timings⟩
  have linking := Leads.calling (proceeds.lastingCompiled session)
    (proceeds.lastingLinked output) proceeds.lastingEnded (.link output settings.linkOptions)
    (proceeds.link session output settings.linkOptions)
  exact linking.timed (proceeds.lastingLinked output) proceeds.lastingEnded "link" timings

theorem ensures_create (settings : Settings) :
    Ensures start (create driver.toolchain settings) fun outcome host =>
      match outcome with
      | .error _ => False
      | .ok session => fresh session host := by
  refine (Ensures.note proceeds.lastingStart _).bind fun _ => ?_
  refine (proceeds.create settings).bind fun outcome => ?_
  cases outcome with
  | error panic => exact fun _ impossible => impossible.elim
  | ok session =>
      refine (Ensures.note (proceeds.lastingFresh session) _).bind fun _ => ?_
      exact .value fun _ holding => holding

/-! ## Requests -/

/-- What a request to run a program does with a compiled session. -/
theorem runPrepared_closes (settings : Settings) (arguments : List String) (session : σ)
    (timings : Timings) :
    Closes driver.toolchain (compiled session)
      (driver.runPrepared settings arguments session timings)
      (driver.leaving.runPrepared settings arguments session timings) fun _ => ended := by
  rw [runPrepared_eq, runPrepared_eq]
  refine Closes.after (Ensures.serve (proceeds.lastingCompiled session)
    (appending_letsServe.startCapture driver)) fun started => ?_
  have running := Leads.calling (proceeds.lastingCompiled session) proceeds.lastingEnded
    proceeds.lastingEnded (runCall settings arguments)
    (proceeds.run session (programArguments settings arguments) settings.libs)
  refine Closes.after (running.timed proceeds.lastingEnded proceeds.lastingEnded "run" timings)
    fun reached => ?_
  obtain ⟨capturing, capture⟩ := started
  have collected (session : σ) (timings : Timings) (result : CapturedOutput → BuildResult) :
      Closes driver.toolchain (ended session)
        (do let output ← if capturing then capture.intoOutput else pure {}
            reportTimings timings
            driver.toolchain.close session
            return (Ending.returned (result output), timings))
        (do let output ← if capturing then capture.intoOutput else pure {}
            reportTimings timings
            return (Ending.returned (result output), timings)) fun _ => ended := by
    dsimp only
    split
    · refine Closes.after (Ensures.serve (proceeds.lastingEnded session)
        (appending_letsServe.intoOutput capture)) fun output => ?_
      exact .closing (proceeds.lastingEnded session) session timings timings _ fun _ known => known
    · exact .closing (proceeds.lastingEnded session) session timings timings _ fun _ known => known
  rcases reached with ⟨_ | error | panic, session, timings⟩
  · exact collected session timings .ran
  · exact collected session timings fun output =>
      (BuildResult.failure error.message).withOutput output
  · exact fun _ impossible => impossible.elim

/-- A request begins with a session, since its creation cannot panic. -/
theorem beginning_closes {α : Type} (settings : Settings)
    (stopped : Ending BuildResult → Ending BuildResult × Driver σ)
    (stoppedTwin : Ending BuildResult → α)
    {next : Suppressor → σ → Action (Ending BuildResult × Driver σ)}
    {nextTwin : Suppressor → σ → Action α} {post : BuildResult → σ → Host → Prop}
    (rest : ∀ suppressor session,
      Closes driver.toolchain (fresh session) (next suppressor session)
        (nextTwin suppressor session) post) :
    Closes driver.toolchain start (driver.beginning settings stopped next)
      (driver.leaving.beginning settings stoppedTwin nextTwin) post := by
  refine Closes.after (Ensures.serve proceeds.lastingStart
    (appending_letsServe.engage .stderr settings.quiet)) fun suppressor => ?_
  refine Closes.after (ensures_create proceeds settings) fun created => ?_
  cases created with
  | error panic => exact fun _ impossible => impossible.elim
  | ok session => exact rest suppressor session

/-- A request to run a program ends in closing a session that is given up. -/
theorem run_closes (settings : Settings) (arguments : List String) :
    Closes driver.toolchain start (driver.run settings arguments)
      (driver.leaving.run settings arguments) fun _ => ended := by
  refine beginning_closes proceeds settings _ _ fun suppressor session => ?_
  rw [prepare_leaving]
  refine Closes.after (leads_prepare proceeds settings session) fun prepared => ?_
  rcases prepared with ⟨_ | error | panic, session, timings⟩
  · refine Closes.after (Ensures.serve (proceeds.lastingCompiled session)
      (appending_letsServe.restoreSuppressor suppressor)) fun _ => ?_
    exact (runPrepared_closes proceeds settings arguments session timings).keep
      (fun timings => { driver with timings })
      fun reached => (reached.1, { driver.leaving with timings := reached.2 })
  · exact .restoring (proceeds.lastingEnded session) suppressor session timings _ _
      fun _ known => known
  · exact fun _ impossible => impossible.elim

/-- A request to build a program ends in closing a session that has linked, exactly if it
succeeds. -/
theorem build_closes (settings : Settings) (output : Path) :
    Closes driver.toolchain start (driver.build settings output)
      (driver.leaving.build settings output) fun result session host =>
        if result.isSuccess then linked output session host else ended session host := by
  refine beginning_closes proceeds settings _ _ fun suppressor session => ?_
  rw [link_leaving]
  refine Closes.after (leads_link proceeds settings output session) fun reached => ?_
  rcases reached with ⟨_ | error | panic, session, timings⟩
  · exact .restoring (proceeds.lastingLinked output session) suppressor session timings _ _
      fun _ known => known
  · exact .restoring (proceeds.lastingEnded session) suppressor session timings _ _
      fun _ known => known
  · exact fun _ impossible => impossible.elim

end Driver

end CompileDriver
