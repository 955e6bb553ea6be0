import CompileDriver.Proofs.Driver.Spares
import CompileDriver.Proofs.Host.Journal

/-!
# Walking a session

A request walks a session through a planned sequence of calls.  `Walks` relates
the plan to the calls that were made with their answers: the calls are made in
the order of the plan, up to the first one that fails.

`Follows` is the rule for the parts of a request: whatever the host, the calls
that the part makes walk its plan, and it ends with the failure of that walk.
Parts that are performed one after the other follow the plans one after the
other.  The guards of the streams, the log and the clock make no calls.
-/

namespace CompileDriver

/-! ## Plans -/

/-- A call with the error that it reported, if any. -/
abbrev Answer := SessionCall × Option ToolchainError

/-- Calls made along a plan, with their answers, up to the first failure. -/
inductive Walks : List SessionCall → List Answer → Option ToolchainError → Prop
  | done : Walks [] [] none
  | failed (call : SessionCall) (rest : List SessionCall) (error : ToolchainError) :
      Walks (call :: rest) [(call, some error)] (some error)
  | next (call : SessionCall) {rest : List SessionCall} {answers : List Answer}
      {failure : Option ToolchainError} (walks : Walks rest answers failure) :
      Walks (call :: rest) ((call, none) :: answers) failure

namespace Walks

variable {plan rest : List SessionCall} {answers more : List Answer}
  {failure : Option ToolchainError}

theorem stop {error : ToolchainError} (walks : Walks plan answers (some error))
    (rest : List SessionCall) : Walks (plan ++ rest) answers (some error) := by
  generalize ends : some error = failure at walks
  induction walks with
  | done => cases ends
  | failed call later error => exact .failed call (later ++ rest) error
  | next call _ ih => exact .next call (ih ends)

theorem append (walks : Walks plan answers none) (last : Walks rest more failure) :
    Walks (plan ++ rest) (answers ++ more) failure := by
  generalize ends : (none : Option ToolchainError) = early at walks
  induction walks with
  | done => exact last
  | failed => cases ends
  | next call _ ih => exact .next call (ih ends)

/-- The calls that are made are the first ones of the plan. -/
theorem calls_prefix (walks : Walks plan answers failure) : answers.map Prod.fst <+: plan := by
  induction walks with
  | done => exact List.prefix_refl _
  | failed call rest error => exact ⟨rest, rfl⟩
  | next call _ ih => exact List.prefix_cons_inj call |>.mpr ih

/-- A single call is made in any case. -/
theorem calls_single {call : SessionCall} (walks : Walks [call] answers failure) :
    answers.map Prod.fst = [call] := by
  cases walks with
  | failed => rfl
  | next _ rest =>
      cases rest
      rfl

/-- Without a failure all calls of the plan are made. -/
theorem calls_of_success (walks : Walks plan answers none) : answers.map Prod.fst = plan := by
  generalize ends : (none : Option ToolchainError) = failure at walks
  induction walks with
  | done => rfl
  | failed => cases ends
  | next call _ ih => rw [List.map_cons, ih ends]

theorem answers_of_success (walks : Walks plan answers none) :
    ∀ answer ∈ answers, answer.2 = none := by
  generalize ends : (none : Option ToolchainError) = failure at walks
  induction walks with
  | done => simp
  | failed => cases ends
  | next call _ ih =>
      rintro answer (_ | ⟨_, later⟩)
      · exact ends
      · exact ih ends answer later

/-- A failure is the answer to the last call that was made, and the only one. -/
theorem failure_last {error : ToolchainError} (walks : Walks plan answers (some error)) :
    ∃ earlier call, answers = earlier ++ [(call, some error)] ∧
      ∀ answer ∈ earlier, answer.2 = none := by
  generalize ends : some error = failure at walks
  induction walks with
  | done => cases ends
  | failed call rest other =>
      cases ends
      exact ⟨[], call, rfl, by simp⟩
  | next call _ ih =>
      obtain ⟨earlier, last, split, succeeded⟩ := ih ends
      exact ⟨(call, none) :: earlier, last, by rw [split, List.cons_append], by
        simpa using succeeded⟩

end Walks

/-! ## Toolchains that return -/

/-- The error that a call reports. -/
def CallEnd.failure? : CallEnd → Option ToolchainError
  | .failed error => some error
  | _ => none

/-- Whether a call returns, with or without an error. -/
def CallEnd.returns : CallEnd → Bool
  | .panicked _ => false
  | _ => true

namespace Toolchain

variable {σ : Type}

/-- Perform a call on an existing session. -/
def perform (toolchain : Toolchain σ) (session : σ) : SessionCall → Action (CallEnd × σ)
  | .create _ => return (.succeeded, session)
  | .plugin name => toolchain.loadPlugin session name
  | .parse input => toolchain.parseFile session input
  | .compile => toolchain.compile session
  | .run arguments libs => toolchain.run session arguments libs
  | .link output options => toolchain.writeExecutable session output options

/-- Every call returns, with or without an error, and notes nothing about
sessions on its own account. -/
structure Returns (toolchain : Toolchain σ) : Prop where
  create : ∀ (settings : Settings) (host : Host),
    (∃ session, (toolchain.createSession settings host).1 = .ok session) ∧
      host.Quiet (toolchain.createSession settings host).2
  call : ∀ (session : σ) (call : SessionCall) (host : Host),
    (toolchain.perform session call host).1.1.returns = true ∧
      host.Quiet (toolchain.perform session call host).2
  close : ∀ (session : σ) (host : Host), host.Quiet (toolchain.close session host).2

end Toolchain

/-! ## Following a plan -/

namespace Driver

variable {σ ρ : Type} {plan rest : List SessionCall}

/-- The calls that prepare a program. -/
def preparation (settings : Settings) : List SessionCall :=
  settings.plugins.map .plugin ++ ([.parse settings.input] ++ [.compile])

/-- Whatever the host, the action makes calls along the plan and ends with the
failure of the walk. -/
def Follows (plan : List SessionCall) (action : Action (CallEnd × ρ)) : Prop :=
  ∀ host : Host, ∃ answers,
    host.Answered (action host).2 answers ∧
      Walks plan answers (action host).1.1.failure? ∧ (action host).1.1.returns = true

namespace Follows

theorem succeed (result : ρ) : Follows [] (pure (.succeeded, result)) :=
  fun host => ⟨[], .of_quiet (.refl host), .done, rfl⟩

/-- Go on after a success, stop at a failure. -/
theorem bind {first : Action (CallEnd × ρ)} {next : CallEnd × ρ → Action (CallEnd × ρ)}
    (follows : Follows plan first)
    (goes : ∀ result, Follows rest (next (.succeeded, result)))
    (stops : ∀ error result, next (.failed error, result) = pure (.failed error, result)) :
    Follows (plan ++ rest) (first >>= next) := by
  intro host
  obtain ⟨answers, answered, walks, returns⟩ := follows host
  rw [Action.bind_apply]
  rcases ended : (first host).1 with ⟨succeeded | error | panic, result⟩
  · rw [ended] at walks
    obtain ⟨more, answeredMore, last, returnsMore⟩ := goes result (first host).2
    exact ⟨answers ++ more, answered.trans answeredMore, walks.append last, returnsMore⟩
  · rw [ended] at walks
    rw [stops]
    exact ⟨answers, answered, walks.stop rest, rfl⟩
  · rw [ended] at returns
    cases returns

/-- What comes before and makes no calls does not count. -/
theorem after {α : Type} {first : Action α} {yields : α → Prop}
    (silent : Silent first yields) {next : α → Action (CallEnd × ρ)}
    (follows : ∀ value, Follows plan (next value)) : Follows plan (first >>= next) := by
  intro host
  obtain ⟨answers, made, walks⟩ := follows (first host).1 (first host).2
  exact ⟨answers, (silent.answered host).trans made, walks⟩

/-- Neither does what comes behind, when it keeps the end of the walk. -/
theorem before {first : Action (CallEnd × σ)} (follows : Follows plan first)
    {next : CallEnd × σ → Action (CallEnd × ρ)}
    (silent : ∀ result, Silent (next result) fun last => last.1 = result.1) :
    Follows plan (first >>= next) := by
  intro host
  obtain ⟨answers, made, walks, returns⟩ := follows host
  have quiet := (silent (first host).1).answered (first host).2
  refine ⟨answers, by simpa using made.trans quiet, ?_⟩
  rw [Action.bind_apply, (silent (first host).1 (first host).2 trivial).2]
  exact ⟨walks, returns⟩

/-- A phase that is timed follows the plan of the phase. -/
theorem timed {phase : Action (CallEnd × σ)} (follows : Follows plan phase) (name : String)
    (timings : Timings) : Follows plan (timed name timings phase) := by
  refine after (Speaks.isEnabled .debug).spares.silent fun enabled => ?_
  split
  · refine before follows fun result => ?_
    rcases result with ⟨_ | _ | _, session⟩
    · exact Spares.elapsed.silent.bind fun _ _ => .value rfl
    · exact Spares.elapsed.silent.bind fun _ _ => .value rfl
    · exact .value rfl
  · exact before follows fun result => .value rfl

variable {toolchain : Toolchain σ} {driver : Driver σ}

/-- A call on a session is a plan of its own. -/
theorem calling (sound : toolchain.Returns) (session : σ) (call : SessionCall) :
    Follows [call] (calling call (toolchain.perform session call)) := by
  intro host
  obtain ⟨returns, quiet⟩ := sound.call session call (host.note (.sessionCall call))
  simp only [Driver.calling, Action.bind_apply, Action.modify_apply]
  rcases ended : toolchain.perform session call (host.note (.sessionCall call)) with
    ⟨⟨_ | error | _, session⟩, after⟩
  all_goals rw [ended] at quiet returns
  · exact ⟨[(call, none)], .of_call host call quiet none, .next call .done, rfl⟩
  · exact ⟨[(call, some error)], .of_call host call quiet (some error),
      .failed call [] error, rfl⟩
  · cases returns

theorem loadPlugins (sound : toolchain.Returns) (names : List String) (session : σ) :
    Follows (names.map .plugin) (loadPlugins toolchain session names) := by
  induction names generalizing session with
  | nil => exact succeed session
  | cons name rest ih =>
      exact (calling sound session (.plugin name)).bind ih fun _ _ => rfl

theorem prepare (sound : toolchain.Returns) (settings : Settings) (session : σ) :
    Follows (preparation settings) (prepare toolchain settings session) := by
  refine ((loadPlugins sound settings.plugins session).timed _ _).bind ?_ fun _ _ => rfl
  rintro ⟨session, timings⟩
  refine ((calling sound session (.parse settings.input)).timed _ _).bind ?_ fun _ _ => rfl
  rintro ⟨session, timings⟩
  exact (calling sound session .compile).timed _ _

theorem link (sound : driver.toolchain.Returns) (settings : Settings) (output : Path)
    (session : σ) :
    Follows (preparation settings ++ [.link output settings.linkOptions])
      (driver.link settings output session) := by
  refine (prepare sound settings session).bind ?_ fun _ _ => rfl
  rintro ⟨session, timings⟩
  exact (calling sound session (.link output settings.linkOptions)).timed _ _

end Follows

end Driver

end CompileDriver
