import CompileDriver.Proofs.Codon.History

/-!
# The driver makes the right calls

A request parses before it compiles, and it compiles before it runs the program or writes
it out in the way that its settings ask for.  So no call of a request is refused by its
session, whatever the compiler and the program do.

`Obeys` is the rule for the parts of a request: no call fails for misuse, and the part
ends with a value of a certain kind.
-/

namespace CompileDriver.Codon

/-- If the moment is the return from a call, the call has not failed for misuse. -/
def IsProper (moment : Moment) : Prop :=
  ∀ call error, moment.answer? = some (call, some error) → ¬ IsMisuse (.failed error)

/-- Whatever the host, no call of the action fails for misuse, and its value is of a
certain kind. -/
abbrev Obeys {α : Type} (action : Action α) (yields : α → Prop) : Prop :=
  (noting IsProper).Governs action yields

/-- The call is one that the session does not refuse. -/
def Session.Accepts (session : Session) (call : SessionCall) : Prop :=
  ∀ directory host, ∃ due, session.due directory host call = .ok due

namespace Session

variable {session : Session}

theorem accepts_plugin (name : String) : session.Accepts (.plugin name) :=
  fun _ _ => ⟨[], rfl⟩

theorem accepts_parse (input : Path) : session.Accepts (.parse input) :=
  fun _ _ => ⟨[], rfl⟩

theorem accepts_compile (parsed : session.input ≠ none) : session.Accepts .compile := by
  intro directory host
  obtain ⟨input, found⟩ := Option.ne_none_iff_exists'.mp parsed
  simp [due, found]

theorem accepts_run (compiled : session.artifact ≠ none) (arguments libs : List String) :
    session.Accepts (.run arguments libs) := by
  intro directory host
  obtain ⟨artifact, found⟩ := Option.ne_none_iff_exists'.mp compiled
  simp [due, found]

theorem accepts_link (compiled : session.artifact ≠ none) (output : Path) :
    session.Accepts (.link output session.settings.linkOptions) := by
  intro directory host
  obtain ⟨artifact, found⟩ := Option.ne_none_iff_exists'.mp compiled
  simp [due, found, Settings.linkOptions]

end Session

namespace Session.Alike

variable {first second session later : Session}

theorem settings (alike : first.Alike second) : second.settings = first.settings := by
  rw [alike.record]

theorem input (alike : first.Alike second) : second.input = first.input := by
  rw [alike.record]

theorem artifact (alike : first.Alike second) : second.artifact = first.artifact := by
  rw [alike.record]

/-- Calls do not change the settings. -/
theorem settings_call {directory : Place} {call : SessionCall} {ended : CallEnd}
    (records : (if ended = .succeeded then session.learn directory call else session).Alike later) :
    later.settings = session.settings := by
  rw [records.settings]
  split
  · cases call <;> rfl
  · rfl

end Session.Alike

/-! ## Silence -/

theorem silent_of_plain {α : Type} {action : Action α} (plain : Plain action) :
    Silent action fun _ => True :=
  plain.relax (fun _ _ => trivial) fun _ _ notes => (Host.Undertakes.of_plain notes).quiet

/-- A session calls nothing on a session. -/
theorem discreet (launcher : Launcher) (binary : Path) : (toolchain launcher binary).Discreet where
  create settings := .value trivial
  call session call host _ := by
    obtain ⟨directory, performed⟩ := performs_somewhere launcher binary session call host
    constructor
    · cases isDue : session.due directory host call with
      | error refusal =>
          rw [performed.refused refusal isDue]
          exact .refl host
      | ok due =>
          obtain ⟨made, undertakes, -⟩ := performed.ventures due isDue
          exact undertakes.quiet
    · trivial
  close session := by
    unfold toolchain Session.close
    dsimp only
    split
    · exact .value trivial
    · apply silent_of_plain
      apply (Plain.openAs _).bind
      intro opened _
      cases opened with
      | error error => exact .value trivial
      | ok number =>
          exact Discipline.Governs.bind (.changed fun _ => .of_journal rfl) fun _ _ =>
            Plain.close number

namespace Obeys

variable {α : Type} {yields : α → Prop}

theorem of_silent {action : Action α} (silent : Silent action yields) : Obeys action yields := by
  apply silent.relax (fun _ _ => trivial)
  rintro before after ⟨moments, grown, routine⟩
  refine ⟨moments, grown, ?_⟩
  intro moment member call error answered
  have silent := routine moment member
  unfold Moment.answer? at answered
  split at answered
  · simp_all [Event.isRoutine]
  · cases answered

theorem note {event : Event} (proper : ∀ table, IsProper { event, table }) :
    Obeys (modify (·.note event) : Action PUnit) fun _ => True :=
  .changed fun host => .note host (proper host.table)

theorem called (call : SessionCall) :
    Obeys (modify (·.note (.sessionCall call)) : Action PUnit) fun _ => True := by
  apply note
  rintro _ _ _ ⟨⟩

theorem returned (call : SessionCall) {ended : CallEnd} (proper : ¬ IsMisuse ended) :
    Obeys (Driver.returned call ended) fun _ => True := by
  cases ended with
  | succeeded =>
      apply note
      rintro _ _ _ ⟨⟩
  | failed error =>
      apply note
      rintro _ _ _ ⟨⟩
      exact proper
  | panicked panic => exact .value trivial

variable (launcher : Launcher) (binary : Path)

/-- A call that is accepted. -/
theorem calling {session : Session} {call : SessionCall} (accepts : session.Accepts call) :
    Obeys (Driver.calling call ((toolchain launcher binary).perform session call)) fun reached =>
      reached.1.returns = true ∧ ∃ directory,
        (if reached.1 = .succeeded then session.learn directory call else session).Alike
          reached.2 := by
  apply (called call).bind
  intro _ _
  have performed : Obeys ((toolchain launcher binary).perform session call) fun reached =>
      ¬ IsMisuse reached.1 ∧ reached.1.returns = true ∧ ∃ directory,
        (if reached.1 = .succeeded then session.learn directory call else session).Alike
          reached.2 := by
    intro host _
    constructor
    · exact (of_silent ((discreet launcher binary).call session call) host trivial).1
    · obtain ⟨directory, performed⟩ := performs_somewhere launcher binary session call host
      obtain ⟨due, isDue⟩ := accepts directory host
      obtain ⟨made, -, outcome⟩ := performed.ventures due isDue
      exact ⟨outcome.proper, outcome.returns, directory, outcome.records⟩
  apply performed.bind
  rintro ⟨ended, later⟩ ⟨proper, known⟩
  exact (returned call proper).bind fun _ _ => .value known

/-- A phase that is timed. -/
theorem timed {phase : Action (CallEnd × Session)} {known : CallEnd × Session → Prop}
    (obeys : Obeys phase known) (name : String) (timings : Timings) :
    Obeys (Driver.timed name timings phase) fun reached => known (reached.1, reached.2.1) := by
  intro host _
  obtain ⟨notes, result⟩ := obeys host trivial
  obtain ⟨later, measurements, same⟩ := Driver.timed_apply name timings phase host
  rw [Discipline.GovernsAt, same]
  exact ⟨notes.trans (.of_journal rfl), result⟩

theorem loadPlugins (names : List String) (session : Session) :
    Obeys (Driver.loadPlugins (toolchain launcher binary) session names) fun reached =>
      reached.2.settings = session.settings := by
  induction names generalizing session with
  | nil => exact .value rfl
  | cons name rest ih =>
      apply (calling launcher binary (session.accepts_plugin name)).bind
      rintro ⟨ended, later⟩ ⟨-, directory, records⟩
      have kept := records.settings_call
      cases ended with
      | succeeded => exact (ih later).weaken fun _ same => same.trans kept
      | failed error => exact .value kept
      | panicked panic => exact .value kept

/-- A program that is prepared is compiled. -/
theorem prepare (settings : Settings) (session : Session) :
    Obeys (Driver.prepare (toolchain launcher binary) settings session) fun reached =>
      reached.1 = .succeeded →
        reached.2.1.settings = session.settings ∧ reached.2.1.artifact ≠ none := by
  apply ((loadPlugins launcher binary settings.plugins session).timed _ _).bind
  rintro ⟨ended, loaded, timings⟩ keptLoaded
  cases ended with
  | failed error => exact .value nofun
  | panicked panic => exact .value nofun
  | succeeded =>
      apply ((calling launcher binary (loaded.accepts_parse settings.input)).timed _ _).bind
      rintro ⟨ended, parsed, timings⟩ ⟨-, directory, records⟩
      have keptParsed := records.settings_call
      cases ended with
      | failed error => exact .value nofun
      | panicked panic => exact .value nofun
      | succeeded =>
          have input : parsed.input = some settings.input := records.input
          have found : parsed.input ≠ none := by simp [input]
          apply ((calling launcher binary (Session.accepts_compile found)).timed _ _).weaken
          rintro ⟨ended, compiled, timings⟩ ⟨-, directory, records⟩ rfl
          constructor
          · exact records.settings_call.trans (keptParsed.trans keptLoaded)
          · have artifact : compiled.artifact = parsed.input.map (Session.artifactPath directory) :=
              records.artifact
            simp [artifact, input]

/-- Writing out asks for what was compiled. -/
theorem link {driver : Driver Session} (isCodon : driver.toolchain = toolchain launcher binary)
    {settings : Settings} {session : Session} (same : session.settings = settings) (output : Path) :
    Obeys (driver.link settings output session) fun _ => True := by
  unfold Driver.link
  rw [isCodon]
  apply (prepare launcher binary settings session).bind
  rintro ⟨ended, prepared, timings⟩ known
  cases ended with
  | failed error => exact .value trivial
  | panicked panic => exact .value trivial
  | succeeded =>
      obtain ⟨kept, compiled⟩ := known rfl
      have accepts := Session.accepts_link compiled output
      rw [kept, same] at accepts
      exact ((calling launcher binary accepts).timed "link" timings).weaken fun _ _ => trivial

theorem runPrepared {driver : Driver Session}
    (isCodon : driver.toolchain = toolchain launcher binary) (settings : Settings)
    (arguments : List String) {session : Session} (compiled : session.artifact ≠ none)
    (timings : Timings) :
    Obeys (driver.runPrepared settings arguments session timings) fun _ => True := by
  rw [Driver.runPrepared_eq]
  apply (of_silent (.startCapture driver)).bind
  rintro ⟨capturing, capture⟩ _
  rw [isCodon]
  have accepts := Session.accepts_run compiled (Driver.programArguments settings arguments)
    settings.libs
  apply ((calling launcher binary accepts).timed "run" timings).bind
  intro reached _
  have isDiscreet : driver.toolchain.Discreet := isCodon ▸ discreet launcher binary
  exact of_silent (Silent.concluding isDiscreet capturing capture reached)

/-- A new session has the settings of the request. -/
theorem create (settings : Settings) :
    Obeys (Driver.create (toolchain launcher binary) settings) fun outcome =>
      outcome = .ok (Session.fresh binary settings) := by
  apply (called (.create settings.optimisation)).bind
  intro _ _
  have created : Obeys ((toolchain launcher binary).createSession settings) fun outcome =>
      outcome = .ok (Session.fresh binary settings) := .value rfl
  apply created.bind
  rintro _ rfl
  exact (returned (.create settings.optimisation) not_isMisuse_succeeded).bind fun _ _ => .value rfl

/-- A request begins with a new session. -/
theorem beginning {driver : Driver Session}
    (isCodon : driver.toolchain = toolchain launcher binary) (settings : Settings)
    (stopped : Ending BuildResult → α) {next : Suppressor → Session → Action α}
    (rest : ∀ suppressor, Obeys (next suppressor (Session.fresh binary settings)) yields) :
    Obeys (driver.beginning settings stopped next) yields := by
  have created := create launcher binary settings
  rw [← isCodon] at created
  apply (of_silent (Silent.engage .stderr settings.quiet)).bind
  intro suppressor _
  apply created.bind
  rintro _ rfl
  exact rest suppressor

theorem preparing {driver : Driver Session}
    (isCodon : driver.toolchain = toolchain launcher binary) (settings : Settings) :
    Obeys (driver.preparing settings) fun outcome =>
      ∀ session timings, outcome = .ok (session, timings) → session.artifact ≠ none := by
  have isDiscreet : driver.toolchain.Discreet := isCodon ▸ discreet launcher binary
  have prepared := prepare launcher binary settings (Session.fresh binary settings)
  rw [← isCodon] at prepared
  refine beginning launcher binary isCodon settings _ fun suppressor => ?_
  apply prepared.bind
  rintro ⟨ended, session, timings⟩ known
  cases ended with
  | panicked panic =>
      apply (of_silent (Silent.unwinding isDiscreet suppressor session panic)).bind
      intro _ _
      apply Discipline.Governs.value
      rintro _ _ ⟨⟩
  | failed error =>
      refine of_silent (Silent.closing isDiscreet suppressor session timings _ ?_)
      rintro _ _ ⟨⟩
  | succeeded =>
      apply (of_silent (Silent.restoreSuppressor suppressor)).bind
      intro _ _
      apply Discipline.Governs.value
      rintro _ _ ⟨⟩
      exact (known rfl).2

theorem run {driver : Driver Session} (isCodon : driver.toolchain = toolchain launcher binary)
    (settings : Settings) (arguments : List String) :
    Obeys (driver.run settings arguments) fun _ => True := by
  rw [Driver.run_eq]
  apply (preparing launcher binary isCodon settings).bind
  rintro (reached | ⟨session, timings⟩) known
  · exact .value trivial
  · have compiled := known session timings rfl
    exact (runPrepared launcher binary isCodon settings arguments compiled timings).bind
      fun _ _ => .value trivial

theorem build {driver : Driver Session} (isCodon : driver.toolchain = toolchain launcher binary)
    (settings : Settings) (output : Path) :
    Obeys (driver.build settings output) fun _ => True := by
  have isDiscreet : driver.toolchain.Discreet := isCodon ▸ discreet launcher binary
  refine beginning launcher binary isCodon settings _ fun suppressor => ?_
  have linked : Obeys (driver.link settings output (Session.fresh binary settings)) fun _ => True :=
    link launcher binary isCodon rfl output
  apply linked.bind
  rintro ⟨ended, session, timings⟩ _
  cases ended with
  | panicked panic =>
      apply (of_silent (Silent.unwinding isDiscreet suppressor session panic)).bind
      exact fun _ _ => .value trivial
  | failed error =>
      exact of_silent (Silent.closing isDiscreet suppressor session timings _ trivial)
  | succeeded => exact of_silent (Silent.closing isDiscreet suppressor session timings _ trivial)

end Obeys

/-- No call that was made between two states has failed for misuse. -/
def NeverMisused (before after : Host) : Prop :=
  ∀ answer ∈ after.answersSince before, ∀ error, answer.2 = some error → ¬ IsMisuse (.failed error)

theorem Obeys.neverMisused {α : Type} {action : Action α} (obeys : Obeys action fun _ => True)
    (host : Host) : NeverMisused host (action host).2 := by
  obtain ⟨-, proper⟩ := Host.Notes.iff_historySince.mp (obeys host trivial).1
  rintro ⟨call, failure⟩ member error rfl
  obtain ⟨moment, present, answered⟩ := List.mem_filterMap.mp member
  exact proper moment present call error answered

/-- Sessions are sound and the driver makes the right calls.  Whatever is called on a new
session, on whichever occasions, there is one directory for all that it compiles, the
session is as its history tells, and every call is sound by the calls before it.  No call
of a request to run or to build a program fails for misuse. -/
theorem sessions_sound_and_never_misused :
    (∀ (binary : Path) (settings : Settings) (occasions : List Occasion), ∃ directory,
      ((Session.fresh binary settings).recalled directory
          ((Session.fresh binary settings).history occasions)).Alike
        ((Session.fresh binary settings).afterwards occasions) ∧
      ∀ dealing earlier,
        dealing :: earlier <:+ (Session.fresh binary settings).history occasions →
          dealing.Sound (Session.fresh binary settings) directory earlier) ∧
    ∀ (launcher : Launcher) (binary : Path) (capturing nonblocking : Bool) (timings : Timings)
      (settings : Settings) (host : Host),
      let driver : Driver Session :=
        { toolchain := toolchain launcher binary, capturing, nonblocking, timings }
      (∀ arguments, NeverMisused host (driver.run settings arguments host).2) ∧
        ∀ output, NeverMisused host (driver.build settings output host).2 := by
  constructor
  · intro binary settings occasions
    let scratch := ((Session.fresh binary settings).afterwards occasions).scratch
    refine ⟨scratch.getD [], Session.sound_history binary settings _ occasions ?_⟩
    intro place found
    rw [show scratch = some place from found, Option.getD_some]
  · intro launcher binary capturing nonblocking timings settings host driver
    constructor
    · intro arguments
      exact (Obeys.run launcher binary rfl settings arguments).neverMisused host
    · intro output
      exact (Obeys.build launcher binary rfl settings output).neverMisused host

end CompileDriver.Codon
