import CompileDriver.Proofs.Driver.Phases
import CompileDriver.Proofs.Driver.Walk
import CompileDriver.Proofs.Host.Hush

/-!
# What requests show

A toolchain voices its diagnostics if these are all that it shows: it writes them to standard
error while it compiles, and the programs that it runs are seen only as long as the streams are
not captured.  When a process at rest makes a request of such a toolchain, then nothing is seen
of it but the diagnostics, and those only if they are not to be hidden.  This is for requests
whose guards could be set up.
-/

namespace CompileDriver

variable {σ : Type} {leaks : Nat → Prop} {owns : σ → Nat → Prop}

/-- No stream refers to an initial target. -/
def Host.IsDiverted (host : Host) : Prop :=
  ∀ stream target : Stream, host.opened stream.number ≠ some (.initial target)

/-- The toolchain shows its diagnostics while it compiles, and nothing else, unless the
programs that it runs are seen. -/
structure Toolchain.Voices (toolchain : Toolchain σ) (diagnostics : σ → Host → Bytes) : Prop where
  create : ∀ settings, Hushed (toolchain.createSession settings)
  plugin : ∀ session name, Hushed (toolchain.loadPlugin session name)
  parse : ∀ session input, Hushed (toolchain.parseFile session input)
  compile : ∀ (session : σ) (host : Host), host.AtRest →
    host.Tells (host.voiced .stderr (diagnostics session host)) (toolchain.compile session host).2
  run : ∀ (session : σ) (arguments libs : List String) (host : Host), host.AtRest →
    host.IsDiverted → host.Hushes (toolchain.run session arguments libs host).2
  link : ∀ session output options, Hushed (toolchain.writeExecutable session output options)
  close : ∀ session, Hushed (toolchain.close session)

/-! ## Between the calls -/

namespace Host.Tells

variable {said : Stream → Bytes} {host : Host}

/-- What a call shows is what is shown from its start to its return. -/
theorem calling {call : SessionCall} {action : Action (CallEnd × σ)}
    (tells : (host.note (.sessionCall call)).Tells said
      (action (host.note (.sessionCall call))).2) :
    host.Tells said (Driver.calling call action host).2 := by
  have returned (ended : CallEnd) (later : Host) :
      later.Hushes (Driver.returned call ended later).2 := by
    cases ended with
    | succeeded => exact .note later _
    | failed error => exact .note later _
    | panicked panic => exact .refl later
  exact (tells.after_hush (.note host _)).before_hush (returned _ _)

theorem timed (name : String) (timings : Timings) {phase : Action (CallEnd × σ)}
    (tells : host.Tells said (phase host).2) :
    host.Tells said (Driver.timed name timings phase host).2 := by
  obtain ⟨later, measurements, same⟩ := Driver.timed_apply name timings phase host
  rw [same]
  have measured : (phase host).2.Hushes { (phase host).2 with measurements } :=
    .of_same rfl rfl rfl (List.suffix_refl _) (.refl _)
  exact tells.before_hush measured

end Host.Tells

namespace Hushed

theorem calling (call : SessionCall) {action : Action (CallEnd × σ)} (hushed : Hushed action) :
    Hushed (Driver.calling call action) := by
  intro host rest
  have noted : (host.note (.sessionCall call)).AtRest :=
    (Host.Hushes.note host (.sessionCall call)).atRest rest
  exact ⟨Host.Tells.calling (hushed _ noted).1, trivial⟩

theorem timed (name : String) (timings : Timings) {phase : Action (CallEnd × σ)}
    (hushed : Hushed phase) : Hushed (Driver.timed name timings phase) :=
  fun host rest => ⟨Host.Tells.timed name timings (hushed host rest).1, trivial⟩

theorem reportTimings (timings : Timings) : Hushed (Driver.reportTimings timings) := by
  apply Discipline.Governs.look
  intro host rest
  split
  · exact Discipline.Governs.each (fun _ _ => debug _) host rest
  · exact .value trivial

theorem startCapture (driver : Driver σ) : Hushed driver.startCapture := by
  unfold Driver.startCapture
  dsimp only
  split
  · apply (start _).bind
    rintro ⟨error | done, capture⟩ _
    · exact (debug _).bind fun _ _ => .value trivial
    · exact .value trivial
  · exact .value trivial

variable {toolchain : Toolchain σ} {diagnostics : σ → Host → Bytes}

theorem create (voices : toolchain.Voices diagnostics) (settings : Settings) :
    Hushed (Driver.create toolchain settings) := by
  have noted (event : Event) : Hushed (modify (·.note event) : Action PUnit) :=
    .changed fun host => .note host event
  apply (noted _).bind
  intro _ _
  apply (voices.create settings).bind
  intro created _
  cases created with
  | error panic => exact .value trivial
  | ok session => exact (noted _).bind fun _ _ => .value trivial

/-- Giving up the suppressor and the session shows nothing. -/
theorem closing {ρ : Type} (voices : toolchain.Voices diagnostics) (suppressor : Suppressor)
    (session : σ) (timings : Timings) (last : ρ) :
    Hushed
      (do discard suppressor.restore
          Driver.reportTimings timings
          toolchain.close session
          return last) :=
  (restoreSuppressor suppressor).discarded.bind fun _ _ => (reportTimings timings).bind fun _ _ =>
    (voices.close session).bind fun _ _ => .value trivial

/-- Neither does what a request does after a call that has returned from the run of the
program. -/
theorem concluding {driver : Driver σ} (voices : driver.toolchain.Voices diagnostics)
    (capturing : Bool) (capture : Capture) {ended : CallEnd} (returns : ended.returns = true)
    (session : σ) (timings : Timings) :
    Hushed (driver.concluding capturing capture (ended, session, timings)) := by
  have collected (last : CapturedOutput → Ending BuildResult × Timings) :
      Hushed
        (do let output ← if capturing then capture.intoOutput else pure {}
            Driver.reportTimings timings
            driver.toolchain.close session
            return last output) := by
    have closed (output : CapturedOutput) :
        Hushed
          (do Driver.reportTimings timings
              driver.toolchain.close session
              return last output) :=
      (reportTimings timings).bind fun _ _ => (voices.close session).bind fun _ _ => .value trivial
    dsimp only
    split
    · exact (intoOutput capture).bind fun output _ => closed output
    · exact closed {}
  cases ended with
  | panicked panic => cases returns
  | succeeded => exact collected fun output => (.returned (.ran output), timings)
  | failed error =>
      exact collected fun output =>
        (.returned ((BuildResult.failure error.message).withOutput output), timings)

end Hushed

/-! ## Up to the compiler -/

/-- The calls before the compiler. -/
def SessionCall.Approaches : SessionCall → Prop
  | .plugin _ | .parse _ => True
  | _ => False

namespace Driver

section

variable (toolchain : Toolchain σ) (settings : Settings)

/-- What a request does with its session before it compiles: the session to compile with, or
how preparing the program has ended. -/
def approaching (session : σ) : Action (Except (CallEnd × σ × Timings) (σ × Timings)) := do
  match ← timed "plugins" {} (loadPlugins toolchain session settings.plugins) with
  | (.succeeded, session, timings) =>
      match ← timed "parse" timings
          (calling (.parse settings.input) (toolchain.parseFile session settings.input)) with
      | (.succeeded, session, timings) => return .ok (session, timings)
      | stopped => return .error stopped
  | stopped => return .error stopped

/-- To prepare a program is to get that far, and to compile. -/
theorem prepare_eq (session : σ) :
    prepare toolchain settings session = (do
      match ← approaching toolchain settings session with
      | .error stopped => return stopped
      | .ok (session, timings) =>
          timed "compile" timings (calling .compile (toolchain.compile session))) := by
  funext host
  simp only [prepare, approaching, Action.bind_apply]
  rcases timed "plugins" {} (loadPlugins toolchain session settings.plugins) host with
    ⟨⟨_ | error | panic, session, timings⟩, loaded⟩
  · simp only [Action.bind_apply]
    rcases timed "parse" timings _ loaded with ⟨⟨_ | error | panic, session, timings⟩, parsed⟩
    all_goals rfl
  · rfl
  · rfl

/-- The session to compile with, and the host on which the compiler is called, if a session
that was created gets that far. -/
def compilingFrom (session : σ) (created : Host) : Option (σ × Host) :=
  match approaching toolchain settings session created with
  | (.error _, _) => none
  | (.ok (session, _), approached) => some (session, approached.note (.sessionCall .compile))

/-- The session that a request compiles with, and the host on which it calls the compiler, if
it gets that far. -/
def compilingOn (before : Host) : Option (σ × Host) :=
  match create toolchain settings (Suppressor.engage .stderr settings.quiet before).2 with
  | (.error _, _) => none
  | (.ok session, created) => compilingFrom toolchain settings session created

/-- What is seen of some diagnostics. -/
def shown (diagnostics : Bytes) : Stream → Bytes :=
  Stream.stderr.only (if settings.quiet then [] else diagnostics)

end

/-- The diagnostics of a call of the compiler, if there is one. -/
def spoken (diagnostics : σ → Host → Bytes) : Option (σ × Host) → Bytes
  | none => []
  | some (session, host) => diagnostics session host

@[simp]
theorem shown_nil (settings : Settings) : shown settings [] = fun _ => [] := by
  funext stream
  simp [shown, Stream.only]

end Driver

theorem SessionCall.prepares_of_approaches {call : SessionCall} (approaches : call.Approaches) :
    call.Prepares := by
  cases call with
  | plugin name => rfl
  | parse input => rfl
  | create | compile | run | link => cases approaches

theorem Course.approaching {toolchain : Toolchain σ} {holds : σ → Host → Prop}
    (course : Course toolchain SessionCall.Approaches holds) (settings : Settings) (session : σ) :
    Ensures (holds session) (Driver.approaching toolchain settings session) fun outcome =>
      match outcome with
      | .error (_, session, _) => holds session
      | .ok (session, _) => holds session := by
  have loading : Ensures (holds session) (Driver.loadPlugins toolchain session settings.plugins)
      fun reached => holds reached.2 := course.loadPlugins (fun _ _ => trivial) session
  refine (course.timed loading "plugins" {}).bind fun loaded => ?_
  rcases loaded with ⟨_ | error | panic, session, timings⟩
  · have parsing := course.calling session (.parse settings.input) trivial
    refine (course.timed parsing "parse" timings).bind fun parsed => ?_
    rcases parsed with ⟨_ | error | panic, session, timings⟩
    · exact .value fun _ holding => holding
    · exact .value fun _ holding => holding
    · exact .value fun _ holding => holding
  · exact .value fun _ holding => holding
  · exact .value fun _ holding => holding

namespace Driver

variable {driver : Driver σ} {settings : Settings} {before : Host}
  {diagnostics : σ → Host → Bytes}

/-- When the diagnostics are hidden if they are to be, what is seen of them is what is shown. -/
theorem voiced_of_sees {host : Host} (sees : SeesPreparation settings before host.opened)
    (stderr : before.opened Stream.stderr.number = some (.initial .stderr))
    (hides : settings.quiet = true → Hides settings before) (bytes : Bytes) :
    host.voiced .stderr bytes = shown settings bytes := by
  unfold Host.voiced shown
  cases quiet : settings.quiet with
  | true =>
      obtain ⟨opening, found⟩ := sees.hidden (hides quiet)
      rw [found]
      funext stream
      simp [Stream.only]
  | false =>
      have notHidden : ¬ Hides settings before := by
        rintro ⟨isQuiet, -⟩
        cases isQuiet.symm.trans quiet
      rw [sees.shown notHidden, stderr]
      rfl

/-- While a request comes to its compiler nothing is seen of it, and its suppressor is as it was
engaged. -/
structure Nearing (settings : Settings) (leaks : Nat → Prop) (before created : Host)
    (mine : Nat → Prop) (host : Host) : Prop where
  hidden : Hidden leaks (fun _ => False) before.opened before.threads
    (Suppressor.engage .stderr settings.quiet before).1 mine host
  hushes : created.Hushes host

theorem nearing_course {created : Host} (voices : driver.toolchain.Voices diagnostics)
    (tidy : driver.toolchain.Tidy owns leaks) (rest : created.AtRest) :
    Course driver.toolchain SessionCall.Approaches fun session =>
      Nearing settings leaks before created (owns session) where
  calling session call approaches host nearing := by
    have hushed : Hushed (driver.toolchain.perform session call) := by
      cases call with
      | plugin name => exact voices.plugin session name
      | parse input => exact voices.parse session input
      | create | compile | run | link => cases approaches
    have called := hushed.calling call host (nearing.hushes.atRest rest)
    exact ⟨(Hidden.frame _).calling tidy session call host nearing.hidden,
      nearing.hushes.trans called.1⟩
  elapsed session host nearing :=
    ⟨(Hidden.frame _).stays .elapsed host nearing.hidden,
      nearing.hushes.trans (Hushed.elapsed host (nearing.hushes.atRest rest)).1⟩

/-- To prepare a program shows what is to be seen of the diagnostics. -/
theorem tells_prepare (voices : driver.toolchain.Voices diagnostics)
    (tidy : driver.toolchain.Tidy owns leaks)
    (isOpen : ∀ stream : Stream, before.opened stream.number ≠ none)
    (stderr : before.opened Stream.stderr.number = some (.initial .stderr))
    (hides : settings.quiet = true → Hides settings before) {session : σ} {created : Host}
    (rest : created.AtRest)
    (hidden : Hidden leaks (fun _ => False) before.opened before.threads
      (Suppressor.engage .stderr settings.quiet before).1 (owns session) created) :
    created.Tells
      (shown settings (spoken diagnostics
        (compilingFrom driver.toolchain settings session created)))
      (prepare driver.toolchain settings session created).2 := by
  have neared := (nearing_course voices tidy rest).approaching settings session created
    ⟨hidden, .refl created⟩
  rw [prepare_eq, Action.bind_apply]
  unfold compilingFrom
  rcases outcome : approaching driver.toolchain settings session created with
    ⟨⟨ended, session, timings⟩ | ⟨session, timings⟩, approached⟩
  · rw [outcome] at neared
    rw [spoken, shown_nil]
    exact neared.hushes
  · rw [outcome] at neared
    apply Host.Tells.after_hush _ neared.hushes
    have noted : (approached.note (.sessionCall .compile)).AtRest :=
      (neared.hushes.trans (.note approached (.sessionCall .compile))).atRest rest
    have compiled := voices.compile session _ noted
    have sees : SeesPreparation settings before approached.opened :=
      sees_of_hidden isOpen neared.hidden
    have voiced (bytes : Bytes) :
        (approached.note (.sessionCall .compile)).voiced .stderr bytes = shown settings bytes :=
      voiced_of_sees sees stderr hides bytes
    rw [voiced] at compiled
    exact compiled.calling.timed "compile" timings

/-! ## Requests -/

/-- A session is created when all calls return. -/
theorem create_returns (sound : driver.toolchain.Returns) (settings : Settings) (host : Host) :
    ∃ session, (create driver.toolchain settings host).1 = .ok session := by
  obtain ⟨⟨session, created⟩, -⟩ :=
    sound.create settings (host.note (.sessionCall (.create settings.optimisation)))
  refine ⟨session, ?_⟩
  simp only [create, Action.bind_apply, Action.modify_apply]
  rw [created]
  rfl

section

variable (voices : driver.toolchain.Voices diagnostics) (sound : driver.toolchain.Returns)
  (tidy : driver.toolchain.Tidy owns leaks)
  (streams : ∀ stream : Stream, before.opened stream.number = some (.initial stream))
  (rest : before.AtRest) (hides : settings.quiet = true → Hides settings before)

include voices sound tidy streams rest hides

/-- What a request has shown when it has created its session and prepared its program. -/
theorem tells_prepared {session : σ} {created : Host}
    (succeeded : create driver.toolchain settings
      (Suppressor.engage .stderr settings.quiet before).2 = (.ok session, created)) :
    before.Tells (shown settings
      (spoken diagnostics (compilingOn driver.toolchain settings before)))
        (prepare driver.toolchain settings session created).2 ∧
      (prepare driver.toolchain settings session created).1.1.returns = true := by
  have isOpen (stream : Stream) : before.opened stream.number ≠ none := by simp [streams stream]
  have engaged := (Hushed.engage .stderr settings.quiet before rest).1
  have creating := (Hushed.create voices settings _ (engaged.atRest rest)).1
  have shows : before.Shows before.opened before.threads := ⟨rfl, List.Subset.refl _⟩
  have hidden := (Hidden.frame _).create tidy settings _
    (Ensures.engageHidden leaks settings.quiet before shows)
  rw [succeeded] at creating hidden
  have hushes := engaged.trans creating
  have prepared := tells_prepare voices tidy isOpen (streams .stderr) hides (hushes.atRest rest)
    hidden
  rw [compilingOn, succeeded]
  refine ⟨prepared.after_hush hushes, ?_⟩
  obtain ⟨-, -, -, returns⟩ := Follows.prepare sound settings session created
  exact returns

/-- A request creates its session and prepares its program. -/
theorem tells_begun :
    ∃ session created,
      create driver.toolchain settings (Suppressor.engage .stderr settings.quiet before).2 =
          (.ok session, created) ∧
        before.Tells
          (shown settings (spoken diagnostics (compilingOn driver.toolchain settings before)))
          (prepare driver.toolchain settings session created).2 ∧
        (prepare driver.toolchain settings session created).1.1.returns = true := by
  obtain ⟨session, succeeded⟩ := create_returns sound settings
    (Suppressor.engage .stderr settings.quiet before).2
  rcases outcome : create driver.toolchain settings
    (Suppressor.engage .stderr settings.quiet before).2 with ⟨_, created⟩
  rw [outcome] at succeeded
  obtain rfl : _ = Except.ok session := succeeded
  exact ⟨session, created, rfl, tells_prepared voices sound tidy streams rest hides outcome⟩

theorem tells_preparing :
    before.Tells (shown settings
      (spoken diagnostics (compilingOn driver.toolchain settings before)))
      (driver.preparing settings before).2 := by
  obtain ⟨session, later, outcome, tells, returns⟩ :=
    tells_begun voices sound tidy streams rest hides
  rw [preparing, Action.bind_apply, Action.bind_apply, outcome]
  dsimp only
  rw [Action.bind_apply]
  rcases prepared : prepare driver.toolchain settings session later with
    ⟨⟨_ | error | panic, session, timings⟩, last⟩
  all_goals rw [prepared] at tells returns
  · exact tells.before_hush
      (Hushed.restoreSuppressor _ last (tells.atRest rest)).1
  · exact tells.before_hush (Hushed.closing voices _ session timings _ last (tells.atRest rest)).1
  · cases returns

/-- Of a request to build a program only its diagnostics are seen. -/
theorem tells_build (output : Path) :
    before.Tells (shown settings
      (spoken diagnostics (compilingOn driver.toolchain settings before)))
      (driver.build settings output before).2 := by
  obtain ⟨session, later, outcome, tells, -⟩ :=
    tells_begun voices sound tidy streams rest hides
  rw [build, Action.bind_apply, Action.bind_apply, outcome]
  have linked : before.Tells
      (shown settings (spoken diagnostics (compilingOn driver.toolchain settings before)))
      (driver.link settings output session later).2 := by
    rw [link, Action.bind_apply]
    rcases prepared : prepare driver.toolchain settings session later with
      ⟨⟨_ | error | panic, session, timings⟩, last⟩
    all_goals rw [prepared] at tells
    · have linking : Hushed (timed "link" timings
          (calling (.link output settings.linkOptions)
            (driver.toolchain.writeExecutable session output settings.linkOptions))) :=
        .timed "link" timings (.calling _ (voices.link session output settings.linkOptions))
      exact tells.before_hush (linking last (tells.atRest rest)).1
    · exact tells
    · exact tells
  obtain ⟨-, -, -, returns⟩ := Follows.link sound settings output session later
  dsimp only
  rw [Action.bind_apply]
  rcases reached : driver.link settings output session later with
    ⟨⟨_ | error | panic, session, timings⟩, last⟩
  all_goals rw [reached] at linked returns
  · exact linked.before_hush (Hushed.closing voices _ session timings _ last (linked.atRest rest)).1
  · exact linked.before_hush (Hushed.closing voices _ session timings _ last (linked.atRest rest)).1
  · cases returns

/-- So it is with a request to run a program whose output is captured. -/
theorem tells_run (discreet : driver.toolchain.Discreet) (arguments : List String)
    (captures : ∀ session timings prepared,
      driver.preparing settings before = (.ok (session, timings), prepared) →
        driver.Captures prepared) :
    before.Tells (shown settings
      (spoken diagnostics (compilingOn driver.toolchain settings before)))
      (driver.run settings arguments before).2 := by
  have tells := tells_preparing voices sound tidy streams rest hides
  rw [run_eq, Action.bind_apply]
  rcases prepared : driver.preparing settings before with ⟨reached | ⟨session, timings⟩, last⟩
  · rw [prepared] at tells
    exact tells
  · have isOpen (stream : Stream) : before.opened stream.number ≠ none := by simp [streams stream]
    have holding := (saw_preparing settings tidy discreet isOpen).2 session timings
      (congrArg Prod.fst prepared)
    rw [prepared] at tells holding
    have kept (stream : Stream) := holding.keeps.kept stream.number not_false (isOpen stream)
    have started := (Hushed.startCapture driver last (tells.atRest rest)).1
    obtain ⟨taps, pipes, -, -, diverted⟩ := (sees_of_startCapture driver isOpen kept).captured
      (captures session timings last prepared)
    have isDiverted : (driver.startCapture last).2.IsDiverted := by
      intro stream target
      rw [(diverted stream).1]
      nofun
    have reached := tells.before_hush started
    have noted : ((driver.startCapture last).2.note
        (.sessionCall (runCall settings arguments))).AtRest :=
      (reached.before_hush (.note _ (.sessionCall (runCall settings arguments)))).atRest rest
    have ran := (voices.run session (programArguments settings arguments) settings.libs _ noted
      isDiverted).calling.timed "run" timings
    obtain ⟨-, -, -, returns⟩ := (Follows.calling sound session (runCall settings arguments)).timed
      "run" timings (driver.startCapture last).2
    have concluded := Hushed.concluding voices (driver.startCapture last).1.1
      (driver.startCapture last).1.2 returns
    dsimp only
    rw [Action.bind_apply, runPrepared_eq]
    exact (reached.before_hush ran).before_hush
      (concluded _ _ _ ((reached.before_hush ran).atRest rest)).1

omit hides in
/-- Of a request just its diagnostics are seen, if the output of the program is captured that it
runs. -/
theorem tells_serve {request : Request}
    (hides : request.settings.quiet = true → Hides request.settings before)
    (discreet : driver.toolchain.Discreet)
    (captures : ∀ settings arguments, request = .run settings arguments →
      ∀ session timings prepared,
        driver.preparing settings before = (.ok (session, timings), prepared) →
          driver.Captures prepared) :
    before.Tells
      (shown request.settings
        (spoken diagnostics (compilingOn driver.toolchain request.settings before)))
      (driver.serve request before).2 := by
  cases request with
  | build settings output => exact tells_build voices sound tidy streams rest hides output
  | run settings arguments =>
      exact tells_run voices sound tidy streams rest hides discreet arguments
        (captures settings arguments rfl)

end

/-! ## At the compiler -/

/-- A request that comes to its compiler is prepared by what the compiler does. -/
theorem prepare_of_compilingFrom {toolchain : Toolchain σ} {first session : σ}
    {created called : Host}
    (reaches : compilingFrom toolchain settings first created = some (session, called)) :
    ∃ timings measurements, prepare toolchain settings first created =
      (((toolchain.compile session called).1.1, (toolchain.compile session called).1.2, timings),
        { (returned .compile (toolchain.compile session called).1.1
            (toolchain.compile session called).2).2 with measurements }) := by
  unfold compilingFrom at reaches
  rw [prepare_eq, Action.bind_apply]
  rcases outcome : approaching toolchain settings first created with
    ⟨stopped | ⟨session, timings⟩, approached⟩
  · rw [outcome] at reaches
    cases reaches
  · rw [outcome] at reaches
    cases reaches
    obtain ⟨later, measurements, ran⟩ := timed_apply "compile" timings
      (calling .compile (toolchain.compile session)) approached
    exact ⟨later, measurements, ran⟩

/-- A request that comes to its compiler has created its session. -/
theorem created_of_compilingOn {toolchain : Toolchain σ} {session : σ} {called : Host}
    (reaches : compilingOn toolchain settings before = some (session, called)) :
    ∃ first created,
      create toolchain settings (Suppressor.engage .stderr settings.quiet before).2 =
          (.ok first, created) ∧
        compilingFrom toolchain settings first created = some (session, called) := by
  unfold compilingOn at reaches
  rcases outcome : create toolchain settings (Suppressor.engage .stderr settings.quiet before).2
    with ⟨panic | first, created⟩
  all_goals rw [outcome] at reaches
  · cases reaches
  · exact ⟨first, created, rfl, reaches⟩

/-- When its compiler fails, a request fails with the message of the error. -/
theorem serve_of_failed_compile {request : Request} {session : σ} {called : Host}
    {error : ToolchainError}
    (reaches : compilingOn driver.toolchain request.settings before = some (session, called))
    (failed : (driver.toolchain.compile session called).1.1 = .failed error) :
    (driver.serve request before).1.1 = .returned (.failure error.message) := by
  obtain ⟨first, created, outcome, comes⟩ := created_of_compilingOn reaches
  obtain ⟨timings, measurements, prepared⟩ := prepare_of_compilingFrom comes
  rw [failed] at prepared
  cases request with
  | run settings arguments =>
      dsimp only [Request.settings] at outcome prepared
      rw [serve, run, Action.bind_apply, Action.bind_apply, outcome]
      dsimp only
      rw [Action.bind_apply, prepared]
      rfl
  | build settings output =>
      dsimp only [Request.settings] at outcome prepared
      rw [serve, build, Action.bind_apply, Action.bind_apply, outcome]
      dsimp only
      rw [Action.bind_apply, link, Action.bind_apply, prepared]
      rfl

/-- A request that comes to its compiler has its suppressor as it was engaged. -/
theorem hidden_of_compilingOn (tidy : driver.toolchain.Tidy owns leaks) {session : σ}
    {called : Host}
    (reaches : compilingOn driver.toolchain settings before = some (session, called)) :
    Hidden leaks (fun _ => False) before.opened before.threads
      (Suppressor.engage .stderr settings.quiet before).1 (owns session) called := by
  obtain ⟨first, created, outcome, comes⟩ := created_of_compilingOn reaches
  have hidden := (Hidden.frame _).create tidy settings _
    (Ensures.engageHidden leaks settings.quiet before ⟨rfl, List.Subset.refl _⟩)
  rw [outcome] at hidden
  have course : Course driver.toolchain SessionCall.Approaches fun session =>
      Hidden leaks (fun _ => False) before.opened before.threads
        (Suppressor.engage .stderr settings.quiet before).1 (owns session) :=
    ((Hidden.frame _).course tidy).narrow fun _ => SessionCall.prepares_of_approaches
  have approached := course.approaching settings first created hidden
  unfold compilingFrom at comes
  rcases came : approaching driver.toolchain settings first created with
    ⟨stopped | ⟨reached, timings⟩, last⟩
  all_goals rw [came] at comes approached
  · cases comes
  · cases comes
    exact (Hidden.frame _).note (.sessionCall .compile) last approached

end Driver

end CompileDriver
