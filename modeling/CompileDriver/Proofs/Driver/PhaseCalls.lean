import CompileDriver.Proofs.Driver.Abreast
import CompileDriver.Proofs.Driver.TimeRecords

/-!
# Requests go through their phases

A request has four phases, each with the calls that it makes on the session.  A phase is
completed when its calls have succeeded, or when one of them has returned an error, which is
then the last call of the request; a phase that a panic ends is not completed.  `GoesThrough`
says which calls were made and answered, and which phases were completed.

The main result of this module is that the times of a request are recorded under the names of
the phases that were completed, if debug records are enabled, and not at all if they are not.
-/

namespace CompileDriver

variable {σ ρ : Type}

namespace Driver

/-! ## Attempts -/

/-- The answers to calls that have all succeeded. -/
def succeeding (calls : List SessionCall) : List Answer :=
  calls.map fun call => (call, none)

@[simp]
theorem succeeding_append (calls more : List SessionCall) :
    succeeding (calls ++ more) = succeeding calls ++ succeeding more :=
  List.map_append

/-- The calls that are made along a plan, and their answers: all of them succeed, or one of them
fails or panics, and no further calls are made. -/
inductive Attempts (plan : List SessionCall) : List SessionCall → List Answer → CallEnd → Prop
  | succeeded : Attempts plan plan (succeeding plan) .succeeded
  | failed {earlier later : List SessionCall} {call : SessionCall} {error : ToolchainError}
      (split : plan = earlier ++ call :: later) :
      Attempts plan (earlier ++ [call]) (succeeding earlier ++ [(call, some error)])
        (.failed error)
  | panicked {earlier later : List SessionCall} {call : SessionCall} {panic : Panic}
      (split : plan = earlier ++ call :: later) :
      Attempts plan (earlier ++ [call]) (succeeding earlier) (.panicked panic)

namespace Attempts

variable {plan rest calls more : List SessionCall} {answers later : List Answer}
  {ended : CallEnd}

/-- Calls that have succeeded come before the attempt. -/
theorem after (done : List SessionCall) (attempts : Attempts rest more later ended) :
    Attempts (done ++ rest) (done ++ more) (succeeding done ++ later) ended := by
  cases attempts with
  | succeeded =>
      rw [← succeeding_append]
      exact .succeeded
  | failed split =>
      rw [← List.append_assoc, ← List.append_assoc, ← succeeding_append]
      exact .failed (by rw [split, List.append_assoc])
  | panicked split =>
      rw [← List.append_assoc, ← succeeding_append]
      exact .panicked (by rw [split, List.append_assoc])

/-- What was not attempted does not matter. -/
theorem stop (attempts : Attempts plan calls answers ended) (stopped : ended ≠ .succeeded)
    (rest : List SessionCall) : Attempts (plan ++ rest) calls answers ended := by
  cases attempts with
  | succeeded => exact absurd rfl stopped
  | failed split => exact .failed (by rw [split, List.append_assoc, List.cons_append])
  | panicked split => exact .panicked (by rw [split, List.append_assoc, List.cons_append])

end Attempts

/-! ## Phases -/

/-- A phase of a request. -/
structure Phase where
  name : String
  /-- The calls that the phase makes when nothing fails. -/
  calls : List SessionCall

/-- The calls of several phases. -/
def callsOf (phases : List Phase) : List SessionCall :=
  phases.flatMap Phase.calls

/-- The calls that are made in phases one after the other, their answers, how the last one
ended, and the names of the phases that were completed. -/
inductive GoesThrough (phases : List Phase) :
    List SessionCall → List Answer → CallEnd → List String → Prop
  | succeeded :
      GoesThrough phases (callsOf phases) (succeeding (callsOf phases)) .succeeded
        (phases.map Phase.name)
  | failed {earlier later : List Phase} {phase : Phase} {calls : List SessionCall}
      {answers : List Answer} {error : ToolchainError}
      (split : phases = earlier ++ phase :: later)
      (attempts : Attempts phase.calls calls answers (.failed error)) :
      GoesThrough phases (callsOf earlier ++ calls) (succeeding (callsOf earlier) ++ answers)
        (.failed error) ((earlier ++ [phase]).map Phase.name)
  | panicked {earlier later : List Phase} {phase : Phase} {calls : List SessionCall}
      {answers : List Answer} {panic : Panic}
      (split : phases = earlier ++ phase :: later)
      (attempts : Attempts phase.calls calls answers (.panicked panic)) :
      GoesThrough phases (callsOf earlier ++ calls) (succeeding (callsOf earlier) ++ answers)
        (.panicked panic) (earlier.map Phase.name)

namespace GoesThrough

variable {phases rest : List Phase} {calls more : List SessionCall} {answers later : List Answer}
  {ended : CallEnd} {completed names : List String}

/-- A single phase is completed unless it panics. -/
theorem single {phase : Phase} (attempts : Attempts phase.calls calls answers ended) :
    GoesThrough [phase] calls answers ended (if ended.returns then [phase.name] else []) := by
  cases ended with
  | succeeded =>
      cases attempts
      have goes : GoesThrough [phase] _ _ _ _ := succeeded
      simpa [callsOf, CallEnd.returns] using goes
  | failed error => exact @failed [phase] [] [] phase _ _ _ rfl attempts
  | panicked panic => exact @panicked [phase] [] [] phase _ _ _ rfl attempts

/-- Phases that have succeeded come before others. -/
theorem after (done : List Phase) (goes : GoesThrough rest more later ended names) :
    GoesThrough (done ++ rest) (callsOf done ++ more) (succeeding (callsOf done) ++ later) ended
      (done.map Phase.name ++ names) := by
  have together (earlier : List Phase) :
      callsOf (done ++ earlier) = callsOf done ++ callsOf earlier := List.flatMap_append
  cases goes with
  | succeeded =>
      rw [← succeeding_append, ← together, ← List.map_append]
      exact .succeeded
  | failed split attempts =>
      rw [← List.append_assoc, ← List.append_assoc, ← succeeding_append, ← together,
        ← List.map_append, ← List.append_assoc]
      exact .failed (by rw [split, List.append_assoc]) attempts
  | panicked split attempts =>
      rw [← List.append_assoc, ← List.append_assoc, ← succeeding_append, ← together,
        ← List.map_append]
      exact .panicked (by rw [split, List.append_assoc]) attempts

/-- Phases that were not reached do not matter. -/
theorem stop (goes : GoesThrough phases calls answers ended completed)
    (stopped : ended ≠ .succeeded) (rest : List Phase) :
    GoesThrough (phases ++ rest) calls answers ended completed := by
  cases goes with
  | succeeded => exact absurd rfl stopped
  | failed split attempts =>
      exact .failed (by rw [split, List.append_assoc, List.cons_append]) attempts
  | panicked split attempts =>
      exact .panicked (by rw [split, List.append_assoc, List.cons_append]) attempts

/-- The phases that were completed are the first ones. -/
theorem completed_prefix (goes : GoesThrough phases calls answers ended completed) :
    completed <+: phases.map Phase.name := by
  cases goes with
  | succeeded => exact List.prefix_refl _
  | @failed earlier later phase _ _ _ split attempts =>
      refine ⟨later.map Phase.name, ?_⟩
      rw [← List.map_append, split, List.append_assoc, List.singleton_append]
  | @panicked earlier later phase _ _ _ split attempts =>
      refine ⟨(phase :: later).map Phase.name, ?_⟩
      rw [← List.map_append, split]

end GoesThrough

end Driver

/-! ## What is heard of a session -/

namespace Host

/-- Between two states exactly these calls were made and these answers given; the settings of
the log have stayed, and no time was logged. -/
structure Exchanges (before after : Host) (calls : List SessionCall) (answers : List Answer) :
    Prop where
  calls : after.callsSince before = calls
  answers : after.answersSince before = answers
  sameLog : SameLog before after
  untimed : Untimed before after

variable {first second third : Host}

theorem Reticent.exchanges (reticent : Reticent first second) : Exchanges first second [] [] where
  calls := (Answered.of_quiet reticent.quiet).calls
  answers := (Answered.of_quiet reticent.quiet).answers
  sameLog := reticent.sameLog
  untimed := reticent.untimed

namespace Exchanges

variable {calls more : List SessionCall} {answers later : List Answer}

theorem trans (start : Exchanges first second calls answers)
    (rest : Exchanges second third more later) :
    Exchanges first third (calls ++ more) (answers ++ later) where
  calls := by rw [callsSince_trans start.untimed.grown rest.untimed.grown, start.calls, rest.calls]
  answers := by
    rw [answersSince_trans start.untimed.grown rest.untimed.grown, start.answers, rest.answers]
  sameLog := start.sameLog.trans rest.sameLog
  untimed := start.untimed.trans rest.untimed

theorem preceded (reticent : Reticent first second) (rest : Exchanges second third calls answers) :
    Exchanges first third calls answers :=
  reticent.exchanges.trans rest

theorem followed (start : Exchanges first second calls answers) (reticent : Reticent second third) :
    Exchanges first third calls answers := by
  simpa using start.trans reticent.exchanges

/-- To note a moment. -/
theorem of_note (host : Host) {event : Event}
    (unlogged : Moment.time? { event, table := host.table } = none) :
    Exchanges host (host.note event)
      ([{ event, table := host.table }].filterMap Moment.call?)
      ([{ event, table := host.table }].filterMap Moment.answer?) := by
  have grown : (host.note event).journal = [{ event, table := host.table }] ++ host.journal := rfl
  constructor
  · rw [callsSince, historySince_of_journal grown, List.reverse_singleton]
  · rw [answersSince, historySince_of_journal grown, List.reverse_singleton]
  · exact ⟨rfl, rfl⟩
  · exact .note host unlogged

theorem of_call (host : Host) (call : SessionCall) :
    Exchanges host (host.note (.sessionCall call)) [call] [] :=
  of_note host rfl

theorem of_return (host : Host) (call : SessionCall) (failure : Option ToolchainError) :
    Exchanges host (host.note (.sessionReturn call failure)) [] [(call, failure)] :=
  of_note host rfl

end Exchanges

end Host

/-! ## Phases of an action -/

namespace Driver

/-- Whatever the host, the action attempts the calls of the plan. -/
def Tries (plan : List SessionCall) (action : Action (CallEnd × ρ)) : Prop :=
  ∀ host : Host, ∃ calls answers, host.Exchanges (action host).2 calls answers ∧
    Attempts plan calls answers (action host).1.1

/-- What comes of an action that goes through phases tells how the last call has ended and which
times are recorded. -/
abbrev Telling (α : Type) := CallEnd → Timings → α → Prop

/-- The calls have ended so, and these times are recorded. -/
def Reached (ended : CallEnd) (timings : Timings) (reached : CallEnd × σ × Timings) : Prop :=
  reached.1 = ended ∧ reached.2.2 = timings

/-- Whatever the host, the action goes through the phases and adds the names of those that are
completed to the names that are recorded, if debug records are enabled. -/
def Passes {α : Type} (tells : Telling α) (phases : List Phase) (names : List String)
    (action : Action α) : Prop :=
  ∀ host : Host, ∃ calls answers ended completed timings,
    host.Exchanges (action host).2 calls answers ∧
      GoesThrough phases calls answers ended completed ∧ tells ended timings (action host).1 ∧
        timings.names = names ++ if host.logsTimes then completed else []

section

variable {toolchain : Toolchain σ} (discreet : toolchain.Discreet)
  (leavesLog : toolchain.LeavesLog)

include discreet leavesLog

/-- A call is made, and it is answered unless it panics. -/
theorem Tries.calling (session : σ) (call : SessionCall) :
    Tries [call] (calling call (toolchain.perform session call)) := by
  intro host
  have made := (Host.Exchanges.of_call host call).followed
    (Reticent.perform discreet leavesLog session call (host.note (.sessionCall call)) trivial).1
  simp only [Driver.calling, Action.bind_apply, Action.modify_apply]
  rcases reached : toolchain.perform session call (host.note (.sessionCall call)) with
    ⟨⟨_ | error | panic, session⟩, later⟩
  all_goals rw [reached] at made
  · exact ⟨_, _, made.trans (.of_return later call none), .succeeded⟩
  · exact ⟨_, _, made.trans (.of_return later call (some error)),
      @Attempts.failed [call] [] [] _ _ rfl⟩
  · exact ⟨_, _, made, @Attempts.panicked [call] [] [] _ _ rfl⟩

theorem Tries.loadPlugins (names : List String) (session : σ) :
    Tries (names.map .plugin) (loadPlugins toolchain session names) := by
  induction names generalizing session with
  | nil => exact fun host => ⟨[], [], (reticence.refl host).exchanges, .succeeded⟩
  | cons name rest ih =>
      intro host
      obtain ⟨calls, answers, exchanges, attempts⟩ :=
        Tries.calling discreet leavesLog session (.plugin name) host
      rw [Driver.loadPlugins, Action.bind_apply]
      rcases reached : Driver.calling (.plugin name) (toolchain.perform session (.plugin name)) host
        with ⟨⟨_ | error | panic, session⟩, later⟩
      all_goals
        rw [reached] at exchanges attempts
        rw [Toolchain.perform] at reached
        rw [reached]
      · obtain ⟨more, moreAnswers, moreExchanges, moreAttempts⟩ := ih session later
        cases attempts
        exact ⟨_, _, exchanges.trans moreExchanges, moreAttempts.after [.plugin name]⟩
      · exact ⟨calls, answers, exchanges, attempts.stop (by simp) _⟩
      · exact ⟨calls, answers, exchanges, attempts.stop (by simp) _⟩

end

/-- When a phase is timed its name is added, unless it panics. -/
theorem names_timed {name : String} {timings : Timings} (new : name ∉ timings.names)
    (phase : Action (CallEnd × σ)) (host : Host) :
    (timed name timings phase host).1.2.2.names =
      timings.names ++
        if host.logsTimes then (if (phase host).1.1.returns then [name] else []) else [] := by
  have looked : (Log.isEnabled .debug host).2 = host := rfl
  rw [timed, Action.bind_apply, looked, Host.logsTimes]
  cases (Log.isEnabled .debug host).1 with
  | false => simp
  | true =>
      simp only [if_true, Action.bind_apply]
      rcases phase host with ⟨⟨_ | error | panic, session⟩, later⟩
      · simp [names_recorded, new, CallEnd.returns]
      · simp [names_recorded, new, CallEnd.returns]
      · simp [CallEnd.returns]

namespace Passes

variable {α : Type} {tells : Telling α} {plan : List SessionCall} {phases rest : List Phase}
  {names : List String}

/-- A phase that is timed. -/
theorem timed {name : String} {timings : Timings} (new : name ∉ timings.names)
    {phase : Action (CallEnd × σ)} (tries : Tries plan phase) :
    Passes Reached [⟨name, plan⟩] timings.names (timed name timings phase) := by
  intro host
  obtain ⟨calls, answers, exchanges, attempts⟩ := tries host
  have sameNames := names_timed new phase host
  obtain ⟨later, measurements, reached⟩ := timed_apply name timings phase host
  have measured : ((phase host).2).Reticent { (phase host).2 with measurements } :=
    ⟨.of_journal rfl, ⟨rfl, rfl⟩, .of_journal rfl⟩
  rw [reached] at sameNames ⊢
  exact ⟨calls, answers, _, _, later, exchanges.followed measured, .single attempts, ⟨rfl, rfl⟩,
    sameNames⟩

/-- No phases are left. -/
theorem none {timings : Timings} {action : Action α}
    (reticent : reticence.Governs action (tells .succeeded timings)) :
    Passes tells [] timings.names action := by
  intro host
  obtain ⟨allowed, known⟩ := reticent host trivial
  exact ⟨[], [], .succeeded, [], timings, allowed.exchanges, .succeeded, known, by simp⟩

theorem after {β : Type} {first : Action β} {yields : β → Prop}
    (reticent : reticence.Governs first yields) {next : β → Action α}
    (passes : ∀ value, Passes tells phases names (next value)) :
    Passes tells phases names (first >>= next) := by
  intro host
  have allowed := (reticent host trivial).1
  obtain ⟨calls, answers, ended, completed, timings, exchanges, through, known, recorded⟩ :=
    passes (first host).1 (first host).2
  rw [allowed.sameLog.logsTimes] at recorded
  exact ⟨calls, answers, ended, completed, timings, exchanges.preceded allowed, through, known,
    recorded⟩

/-- Further phases follow after a success; otherwise no more calls are made. -/
theorem bind {first : Action (CallEnd × σ × Timings)} (passes : Passes Reached phases names first)
    {next : CallEnd × σ × Timings → Action α}
    (goes : ∀ session timings, timings.names ⊆ names ++ phases.map Phase.name →
      Passes tells rest timings.names (next (.succeeded, session, timings)))
    (stops : ∀ error session timings, reticence.Governs (next (.failed error, session, timings))
      (tells (.failed error) timings))
    (unwinds : ∀ panic session timings, reticence.Governs (next (.panicked panic, session, timings))
      (tells (.panicked panic) timings)) :
    Passes tells (phases ++ rest) names (first >>= next) := by
  intro host
  obtain ⟨calls, answers, last, completed, times, exchanges, through, same, recorded⟩ :=
    passes host
  rw [Action.bind_apply]
  rcases reached : first host with ⟨⟨ended, session, timings⟩, later⟩
  rw [reached] at exchanges same
  obtain ⟨rfl, rfl⟩ := same
  cases ended with
  | succeeded =>
      cases through
      have known : timings.names ⊆ names ++ phases.map Phase.name := by
        rw [recorded]
        split <;> simp
      obtain ⟨more, moreAnswers, ended, moreCompleted, moreTimings, moreExchanges, moreThrough,
        told, moreRecorded⟩ := goes session timings known later
      refine ⟨_, _, ended, _, moreTimings, exchanges.trans moreExchanges,
        moreThrough.after phases, told, ?_⟩
      rw [moreRecorded, exchanges.sameLog.logsTimes, recorded]
      split <;> simp
  | failed error =>
      obtain ⟨reticent, told⟩ := stops error session timings later trivial
      exact ⟨calls, answers, _, completed, timings, exchanges.followed reticent,
        through.stop nofun rest, told, recorded⟩
  | panicked panic =>
      obtain ⟨reticent, told⟩ := unwinds panic session timings later trivial
      exact ⟨calls, answers, _, completed, timings, exchanges.followed reticent,
        through.stop nofun rest, told, recorded⟩

end Passes

/-! ## Requests -/

/-- The phases that prepare a program. -/
def preparationPhases (settings : Settings) : List Phase :=
  [⟨"plugins", settings.plugins.map .plugin⟩] ++
    ([⟨"parse", [.parse settings.input]⟩] ++ [⟨"compile", [.compile]⟩])

/-- The last phase of a request. -/
def Request.lastPhase : Request → Phase
  | .run settings arguments => ⟨"run", [runCall settings arguments]⟩
  | .build settings output => ⟨"link", [.link output settings.linkOptions]⟩

/-- The phases of a request. -/
def Request.phases (request : Request) : List Phase :=
  preparationPhases request.settings ++ [request.lastPhase]

/-- The phases that a request goes through before its suppressor is given up. -/
def Request.hiddenPhases : Request → List Phase
  | .run settings _ => preparationPhases settings
  | request@(.build _ _) => request.phases

/-- The phases that are left after that. -/
def Request.openPhases : Request → List Phase
  | request@(.run _ _) => [request.lastPhase]
  | .build _ _ => []

/-- The names of the phases of a request. -/
theorem Request.phases_names (request : Request) :
    request.phases.map Phase.name = ["plugins", "parse", "compile", request.lastPhase.name] :=
  rfl

theorem Request.phases_nodup (request : Request) : (request.phases.map Phase.name).Nodup := by
  rw [phases_names]
  cases request <;> simp [lastPhase]

theorem Request.phases_known (request : Request) : request.phases.map Phase.name ⊆ phaseNames := by
  rw [phases_names]
  cases request <;> simp [lastPhase, phaseNames]

theorem Request.phases_split (request : Request) :
    request.hiddenPhases ++ request.openPhases = request.phases := by
  cases request with
  | run settings arguments => rfl
  | build settings output => exact List.append_nil _

theorem Request.openPhases_new (request : Request) {phase : Phase}
    (member : phase ∈ request.openPhases) :
    phase.name ∉ request.hiddenPhases.map Phase.name := by
  intro hidden
  have distinct := request.phases_nodup
  rw [← request.phases_split, List.map_append] at distinct
  exact (List.nodup_append.mp distinct).2.2 _ hidden _ (List.mem_map_of_mem member) rfl

/-- The calls of a request with their answers, how the last one ended, and the phases that
were completed.  The phases begin when the session is created, which can only be prevented by a
panic. -/
inductive Request.GoesThrough (request : Request) :
    List SessionCall → List Answer → CallEnd → List String → Prop
  | uncreated {panic : Panic} :
      request.GoesThrough [.create request.settings.optimisation] [] (.panicked panic) []
  | created {calls : List SessionCall} {answers : List Answer} {ended : CallEnd}
      {completed : List String}
      (through : Driver.GoesThrough request.phases calls answers ended completed) :
      request.GoesThrough (.create request.settings.optimisation :: calls)
        ((.create request.settings.optimisation, none) :: answers) ended completed

theorem Request.GoesThrough.completed_prefix {request : Request} {calls : List SessionCall}
    {answers : List Answer} {ended : CallEnd} {completed : List String}
    (through : request.GoesThrough calls answers ended completed) :
    completed <+: request.phases.map Phase.name := by
  cases through with
  | uncreated => exact List.nil_prefix
  | created through => exact through.completed_prefix

section

variable {driver : Driver σ} (discreet : driver.toolchain.Discreet)
  (leavesLog : driver.toolchain.LeavesLog)

include discreet leavesLog

theorem Passes.prepare (settings : Settings) (session : σ) :
    Passes Reached (preparationPhases settings) [] (prepare driver.toolchain settings session) := by
  have plugins := Tries.loadPlugins discreet leavesLog settings.plugins session
  have none : "plugins" ∉ ({} : Timings).names := List.not_mem_nil
  refine (Passes.timed none plugins).bind ?_ (fun _ _ _ => .value ⟨rfl, rfl⟩)
    fun _ _ _ => .value ⟨rfl, rfl⟩
  intro session timings first
  have parse := Tries.calling discreet leavesLog session (.parse settings.input)
  have new : "parse" ∉ timings.names :=
    fun member => absurd (first member) (by simp [Timings.names])
  refine (Passes.timed new parse).bind ?_ (fun _ _ _ => .value ⟨rfl, rfl⟩)
    fun _ _ _ => .value ⟨rfl, rfl⟩
  intro session timings second
  have compile := Tries.calling discreet leavesLog session .compile
  refine Passes.timed (fun member => ?_) compile
  rcases List.mem_append.mp (second member) with early | late
  · exact absurd (first early) (by simp [Timings.names])
  · exact absurd late (by simp)

theorem Passes.working (session : σ) (request : Request) :
    Passes Reached request.hiddenPhases [] (driver.working session request) := by
  cases request with
  | run settings arguments => exact .prepare discreet leavesLog settings session
  | build settings output =>
      refine (Passes.prepare discreet leavesLog settings session).bind ?_
        (fun _ _ _ => .value ⟨rfl, rfl⟩) fun _ _ _ => .value ⟨rfl, rfl⟩
      intro session timings known
      have link := Tries.calling discreet leavesLog session (.link output settings.linkOptions)
      exact Passes.timed (fun member => absurd (known member) (by simp [preparationPhases])) link

/-- A session is created unless the toolchain panics. -/
theorem create_exchanges (settings : Settings) (host : Host) :
    host.Exchanges (create driver.toolchain settings host).2 [.create settings.optimisation]
      (match (create driver.toolchain settings host).1 with
        | .ok _ => [(.create settings.optimisation, none)]
        | .error _ => []) := by
  let call := SessionCall.create settings.optimisation
  have made := (Host.Exchanges.of_call host call).followed
    (Reticent.createSession discreet leavesLog settings (host.note (.sessionCall call)) trivial).1
  simp only [create, Action.bind_apply, Action.modify_apply]
  rcases reached : driver.toolchain.createSession settings (host.note (.sessionCall call)) with
    ⟨panic | session, later⟩
  all_goals rw [reached] at made
  · exact made
  · exact made.trans (.of_return later call none)

end

/-! ## The work of a request -/

/-- A request comes to its report if its last call returns, and it does not return otherwise. -/
def Agrees (ended : CallEnd) : Except (Ending BuildResult) (BuildResult × σ) → Prop
  | .ok _ => ended.returns = true
  | .error ending => ended.returns = false ∧ ∀ result, ending ≠ .returned result

/-- The work of a request agrees with its last call, and these times are recorded. -/
def Concluded (ended : CallEnd) (timings : Timings) (worked : Worked σ) : Prop :=
  Agrees ended worked.1 ∧ worked.2 = timings

section

variable {driver : Driver σ} (discreet : driver.toolchain.Discreet)
  (leavesLog : driver.toolchain.LeavesLog)

include discreet leavesLog

theorem gathering_concluded (capturing : Bool) (capture : Capture) (ended : CallEnd) (session : σ)
    (timings : Timings) :
    reticence.Governs (driver.gathering capturing capture (ended, session, timings))
      (Concluded ended timings) := by
  have collected (result : CapturedOutput → BuildResult) (returns : ended.returns = true) :
      reticence.Governs
        (do let output ← if capturing then capture.intoOutput else pure {}
            return (Except.ok (result output, session), timings))
        (Concluded ended timings) := by
    cases capturing with
    | true => exact (Reticent.intoOutput capture).bind fun _ _ => .value ⟨returns, rfl⟩
    | false => exact .value ⟨returns, rfl⟩
  cases ended with
  | succeeded => exact collected .ran rfl
  | failed error =>
      exact collected (fun output => (BuildResult.failure error.message).withOutput output) rfl
  | panicked panic =>
      have cleanup := (Reticent.stop capture).bind fun _ _ =>
        Reticent.close discreet leavesLog session
      exact (Reticent.unwind panic cleanup).bind fun _ notReturned =>
        .value ⟨⟨rfl, notReturned⟩, rfl⟩

theorem Passes.beyond (session : σ) (timings : Timings) (request : Request)
    (new : ∀ phase ∈ request.openPhases, phase.name ∉ timings.names) :
    Passes Concluded request.openPhases timings.names (driver.beyond session timings request) := by
  cases request with
  | run settings arguments =>
      refine after (Reticent.startCapture driver) fun (capturing, capture) => ?_
      have run := Tries.calling discreet leavesLog session (runCall settings arguments)
      have gathered (ended : CallEnd) (session : σ) (timings : Timings) :=
        gathering_concluded discreet leavesLog capturing capture ended session timings
      rw [← List.append_nil (Request.openPhases _)]
      exact bind (timed (new _ List.mem_cons_self) run)
        (fun session timings _ => .none (gathered .succeeded session timings))
        (fun error => gathered (.failed error)) fun panic => gathered (.panicked panic)
  | build settings output => exact .none (.value ⟨rfl, rfl⟩)

/-- What a request records before its report. -/
theorem work_attains (request : Request) (host : Host) :
    ∃ calls answers ended completed, host.Exchanges (driver.work request host).2 calls answers ∧
      request.GoesThrough calls answers ended completed ∧
        Agrees ended (driver.work request host).1.1 ∧
          (driver.work request host).1.2.names = if host.logsTimes then completed else [] := by
  have engaged := (Reticent.engage .stderr request.settings.quiet host trivial).1
  have created := create_exchanges discreet leavesLog request.settings
    (Suppressor.engage .stderr request.settings.quiet host).2
  rw [work, Action.bind_apply, Action.bind_apply]
  generalize (Suppressor.engage .stderr request.settings.quiet host).1 = suppressor
  rcases reached : create driver.toolchain request.settings
    (Suppressor.engage .stderr request.settings.quiet host).2 with ⟨panic | session, later⟩
  all_goals rw [reached] at created
  · obtain ⟨reticent, notReturned⟩ :=
      Reticent.unwind panic (Reticent.restoreSuppressor suppressor) later trivial
    exact ⟨_, _, .panicked panic, [], (created.preceded engaged).followed reticent, .uncreated,
      ⟨rfl, notReturned⟩, by simp [Timings.names]⟩
  · have rest : Passes Concluded request.phases []
        (driver.working session request >>= driver.uncovering suppressor request) := by
      rw [← request.phases_split]
      refine (Passes.working discreet leavesLog session request).bind ?_ ?_ ?_
      · intro session timings known
        refine .after (Reticent.restoreSuppressor suppressor) fun _ => ?_
        refine .beyond discreet leavesLog session timings request fun phase member recorded => ?_
        exact request.openPhases_new member (known recorded)
      · intro error session timings
        exact (Reticent.restoreSuppressor suppressor).bind fun _ _ => .value ⟨rfl, rfl⟩
      · intro panic session timings
        have cleanup := (Reticent.close discreet leavesLog session).bind fun _ _ =>
          Reticent.restoreSuppressor suppressor
        exact (Reticent.unwind panic cleanup).bind fun _ notReturned =>
          .value ⟨⟨rfl, notReturned⟩, rfl⟩
    obtain ⟨calls, answers, ended, completed, timings, exchanges, through, ⟨agrees, same⟩,
      recorded⟩ := rest later
    have prepared := (created.preceded engaged).trans exchanges
    rw [created.sameLog.logsTimes, engaged.sameLog.logsTimes, ← same] at recorded
    exact ⟨_, _, ended, completed, prepared, .created through, agrees, recorded⟩

end

end Driver

end CompileDriver
