import CompileDriver.Guard.Capture
import CompileDriver.Proofs.Action
import CompileDriver.Proofs.Host.Opened

/-!
# The steps of starting a capture

Starting a capture is a list of steps, each of which acquires something.  The first step
that fails decides the error: which kind it is of and which stream it names.  A capture that
cannot be started is what it was, unless it is stopped since a reader cannot be started.
-/

namespace CompileDriver

namespace Capture

/-- A step of starting a capture. -/
inductive StartStep
  /-- To make the pipe of a stream. -/
  | pipe (stream : Stream)
  /-- To save the descriptor of a stream. -/
  | save (stream : Stream)
  /-- To point a stream at its pipe. -/
  | redirect (stream : Stream)
  /-- To switch the reading end of a pipe to polling. -/
  | poll (stream : Stream)
  /-- To start the thread that reads from a pipe. -/
  | spawn (stream : Stream)
  deriving Repr, DecidableEq

namespace StartStep

/-- The steps that the tap of a stream takes. -/
def ofTap (nonblocking : Bool) (stream : Stream) : List StartStep :=
  if nonblocking then [poll stream, spawn stream] else [spawn stream]

/-- The steps in their order. -/
def all (nonblocking : Bool) : List StartStep :=
  [pipe .stdout, pipe .stderr, save .stdout, save .stderr, redirect .stdout, redirect .stderr] ++
    (ofTap nonblocking .stdout ++ ofTap nonblocking .stderr)

/-- How a step that failed is reported. -/
def report (error : OsError) : StartStep → CaptureError
  | pipe stream => .pipe stream error
  | save stream | redirect stream => .redirect stream error
  | poll stream | spawn stream => .reader stream error

/-- What steps have acquired so far: the ends of the pipes and the scopes. -/
structure Gains where
  ends : PerStream (Nat × Nat) := { stdout := (0, 0), stderr := (0, 0) }
  scopes : PerStream Scope :=
    { stdout := { stream := .stdout, saved := none }
      stderr := { stream := .stderr, saved := none } }

/-- Take a step, given what the steps before have acquired. -/
def take (gains : Gains) : StartStep → Action (Except OsError Gains)
  | pipe stream =>
      return (← SystemCall.pipe).map fun ends => { gains with ends := gains.ends.set stream ends }
  | save stream =>
      return (← Scope.save stream).map fun scope =>
        { gains with scopes := gains.scopes.set stream scope }
  | redirect stream =>
      return (← (gains.scopes.get stream).redirectTo (gains.ends.get stream).2).map fun _ => gains
  | poll stream => return (← SystemCall.setPolling (gains.ends.get stream).1).map fun _ => gains
  | spawn stream => return (← SystemCall.startReader (gains.ends.get stream).1).map fun _ => gains

/-- Take steps until one fails: that step and its error. -/
def firstFailure (gains : Gains) :
    List StartStep → Action (Option (StartStep × OsError))
  | [] => return none
  | step :: rest => do
      match ← step.take gains with
      | .error error => return some (step, error)
      | .ok more => firstFailure more rest

end StartStep

/-- The step at which a start fails, if it does. -/
def failingStep (capture : Capture) : Action (Option (StartStep × OsError)) :=
  StartStep.firstFailure {} (StartStep.all capture.nonblocking)

namespace StartStep

/-- An action takes steps, as far as its value reads: an error is the report of the first
step that fails, and after a success further steps go on from where the action ended. -/
def TakenBy {α β : Type} (gains : Gains) (steps : List StartStep)
    (action : Action α) (read : α → Except CaptureError β) (after : β → Gains) :
    Prop :=
  ∀ host rest,
    match read (action host).1 with
    | .error error => ∃ step cause,
        (firstFailure gains (steps ++ rest) host).1 = some (step, cause) ∧ error = step.report cause
    | .ok value =>
        firstFailure gains (steps ++ rest) host = firstFailure (after value) rest (action host).2

namespace TakenBy

variable {α β γ δ : Type} {gains : Gains} {steps rest : List StartStep}

theorem nil {value : α} {read : α → Except CaptureError β} {last : β}
    {after : β → Gains} (succeeds : read value = .ok last)
    (same : after last = gains) : TakenBy gains [] (pure value : Action α) read after := by
  intro host rest
  simp [succeeds, same]

/-- A step is taken by its own call. -/
theorem call (step : StartStep) {call : Action (Except OsError α)}
    {after : α → Gains}
    (taken : step.take gains = do return (← call).map after) :
    TakenBy gains [step] call (Except.mapError (step.report ·)) after := by
  intro host rest
  rw [List.singleton_append, firstFailure, taken]
  simp only [Action.bind_apply, Action.pure_apply]
  cases (call host).1 with
  | error error => exact ⟨step, error, rfl, rfl⟩
  | ok value => rfl

theorem bind {action : Action α} {read : α → Except CaptureError β}
    {middle : β → Gains} {next : α → Action γ}
    {readLast : γ → Except CaptureError δ} {after : δ → Gains}
    (first : TakenBy gains steps action read middle)
    (failed : ∀ value error, read value = .error error →
      ∀ host, readLast (next value host).1 = .error error)
    (succeeded : ∀ value reached, read value = .ok reached →
      TakenBy (middle reached) rest (next value) readLast after) :
    TakenBy gains (steps ++ rest) (action >>= next) readLast after := by
  intro host more
  have start := first host (rest ++ more)
  rw [← List.append_assoc] at start
  rw [Action.bind_apply]
  cases ended : read (action host).1 with
  | error error =>
      rw [ended] at start
      rw [failed _ error ended]
      exact start
  | ok reached =>
      rw [ended] at start
      have going := succeeded _ reached ended (action host).2 more
      rw [← start] at going
      exact going

/-- One step goes before others. -/
theorem step (step : StartStep) {call : Action (Except OsError α)} {middle : α → Gains}
    {next : Except OsError α → Action γ} {readLast : γ → Except CaptureError δ} {after : δ → Gains}
    (taken : step.take gains = do return (← call).map middle)
    (failed : ∀ cause host, readLast (next (.error cause) host).1 = .error (step.report cause))
    (succeeded : ∀ value, TakenBy (middle value) rest (next (.ok value)) readLast after) :
    TakenBy gains (step :: rest) (call >>= next) readLast after := by
  rw [← List.singleton_append]
  refine (TakenBy.call step taken).bind ?_ ?_
  · rintro (cause | value) error ⟨⟩
    exact failed cause
  · rintro (cause | value) _ ⟨⟩
    exact succeeded value

end TakenBy

theorem takenBy_redirectBoth (gains : Gains) :
    TakenBy gains [save .stdout, save .stderr, redirect .stdout, redirect .stderr]
      (redirectBoth { stdout := gains.ends.stdout.2, stderr := gains.ends.stderr.2 }) id
      fun scopes => { gains with scopes } := by
  refine .step (save .stdout) rfl (fun _ _ => rfl) fun stdout => ?_
  refine .step (save .stderr) rfl (fun _ _ => rfl) fun stderr => ?_
  refine .step (redirect .stdout) rfl (fun _ _ => rfl) fun _ => ?_
  refine .step (redirect .stderr) rfl (fun _ _ => rfl) fun _ => ?_
  exact .nil rfl rfl

theorem takenBy_startTap (gains : Gains) (stream : Stream) (scope : Scope) (nonblocking : Bool) :
    TakenBy gains (ofTap nonblocking stream)
      (startTap
        { scope, writer := (gains.ends.get stream).2, source := (gains.ends.get stream).1,
          thread := none } nonblocking)
      (Except.mapError (CaptureError.reader stream)) fun _ => gains := by
  have started : TakenBy gains [spawn stream] (SystemCall.startReader (gains.ends.get stream).1)
      (Except.mapError (CaptureError.reader stream)) fun _ => gains :=
    TakenBy.call (spawn stream) rfl
  cases nonblocking with
  | false => exact started
  | true => exact .step (poll stream) rfl (fun _ _ => rfl) fun _ => started

/-- The taps of the pipes and scopes that have been acquired. -/
def Gains.taps (gains : Gains) : PerStream Tap :=
  { stdout :=
      { scope := gains.scopes.stdout
        writer := gains.ends.stdout.2
        source := gains.ends.stdout.1
        thread := none }
    stderr :=
      { scope := gains.scopes.stderr
        writer := gains.ends.stderr.2
        source := gains.ends.stderr.1
        thread := none } }

/-- How a start ends when a step fails, or none does. -/
def outcome : Option (StartStep × OsError) → Except CaptureError Unit
  | none => .ok ()
  | some (step, cause) => .error (step.report cause)

/-- A start ends as the steps tell that it goes through first, and then as the others
tell. -/
theorem TakenBy.ends {α β : Type} {gains : Gains} {steps rest : List StartStep} {action : Action α}
    {read : α → Except CaptureError β} {middle : β → Gains}
    {next : α → Action (Except CaptureError Unit × Capture)}
    (first : TakenBy gains steps action read middle)
    (failed : ∀ value error, read value = .error error →
      ∀ host, (next value host).1.1 = .error error)
    (succeeded : ∀ value reached, read value = .ok reached → ∀ host,
      (next value host).1.1 = outcome (firstFailure (middle reached) rest host).1) (host : Host) :
    ((action >>= next) host).1.1 = outcome (firstFailure gains (steps ++ rest) host).1 := by
  have start := first host rest
  rw [Action.bind_apply]
  cases ended : read (action host).1 with
  | error error =>
      rw [ended] at start
      obtain ⟨step, cause, failedAt, rfl⟩ := start
      rw [failed _ _ ended, failedAt, outcome]
  | ok reached =>
      rw [ended] at start
      rw [succeeded _ reached ended, start]

/-- A start ends as its first step tells, or as the others tell. -/
theorem ends_step {α : Type} {gains : Gains} {rest : List StartStep} (step : StartStep)
    {call : Action (Except OsError α)} {middle : α → Gains}
    {next : Except OsError α → Action (Except CaptureError Unit × Capture)}
    (taken : step.take gains = do return (← call).map middle)
    (failed : ∀ cause host, (next (.error cause) host).1.1 = .error (step.report cause))
    (succeeded : ∀ value host,
      (next (.ok value) host).1.1 = outcome (firstFailure (middle value) rest host).1)
    (host : Host) :
    ((call >>= next) host).1.1 = outcome (firstFailure gains (step :: rest) host).1 := by
  rw [← List.singleton_append]
  refine (TakenBy.call step taken).ends ?_ ?_ host
  · rintro (cause | value) error ⟨⟩
    exact failed cause
  · rintro (cause | value) _ ⟨⟩
    exact succeeded value

theorem startReaders_ends (gains : Gains) (capture : Capture) (host : Host) :
    (capture.startReaders gains.taps host).1.1 = outcome (firstFailure gains
      (ofTap capture.nonblocking .stdout ++ ofTap capture.nonblocking .stderr) host).1 := by
  refine (takenBy_startTap gains .stdout gains.scopes.stdout capture.nonblocking).ends ?_ ?_ host
  · rintro (cause | first) error ⟨⟩ host
    rfl
  rintro (cause | first) _ ⟨⟩ host
  rw [← List.append_nil (ofTap capture.nonblocking .stderr)]
  refine (takenBy_startTap gains .stderr gains.scopes.stderr capture.nonblocking).ends ?_ ?_ host
  · rintro (cause | second) error ⟨⟩ host
    rfl
  rintro (cause | second) _ ⟨⟩ host
  rfl

end StartStep

/-- The error of a start is the report of the first step that fails, and the start succeeds
when none does. -/
theorem start_ends {capture : Capture} (inactive : capture.taps = none) (host : Host) :
    (capture.start host).1.1 = StartStep.outcome (capture.failingStep host).1 := by
  have idle : capture.isActive = false := by simp [isActive, inactive]
  unfold start
  rw [idle]
  refine StartStep.ends_step (.pipe .stdout) rfl (fun _ _ => rfl) (fun stdoutPipe => ?_) host
  refine StartStep.ends_step (.pipe .stderr) rfl (fun _ _ => rfl) fun stderrPipe => ?_
  let ends : PerStream (Nat × Nat) := { stdout := stdoutPipe, stderr := stderrPipe }
  refine (StartStep.takenBy_redirectBoth { ends }).ends ?_ ?_
  · rintro (cause | scopes) error ⟨⟩ host
    rfl
  · rintro (cause | scopes) _ ⟨⟩ host
    exact StartStep.startReaders_ends { ends, scopes } capture host

/-! ## What a start leads to -/

/-- A start succeeds, or leaves the capture what it was, or stops it again when a reader cannot
be started; that of standard error has not been started then, and the other one has only been if
the error names standard error. -/
theorem start_leads (capture : Capture) {post : Except CaptureError Unit × Capture → Prop}
    (unchanged : ∀ error, post (.error error, capture))
    (givenUp : ∀ (taps : PerStream Tap) (stream : Stream) (cause : OsError),
      taps.stderr.thread = none → (stream = .stdout → taps.stdout.thread = none) →
        Ensures (fun _ => True) ({ capture with taps := some taps } : Capture).stop
          fun stopped _ => post (.error (.reader stream cause), stopped))
    (started : ∀ taps, post (.ok (), { capture with taps := some taps })) :
    Ensures (fun _ => True) capture.start fun outcome _ => post outcome := by
  have anyhow {α : Type} (action : Action α) : Ensures (fun _ => True) action fun _ _ => True :=
    fun _ _ => trivial
  have returned {outcome : Except CaptureError Unit × Capture} (leads : post outcome) :
      Ensures (fun _ => True) (pure outcome : Action _) fun outcome _ => post outcome :=
    fun _ _ => leads
  unfold start
  split
  · exact returned (unchanged _)
  · refine (anyhow _).bind fun first => ?_
    cases first with
    | error error => exact returned (unchanged _)
    | ok stdoutPipe =>
        refine (anyhow _).bind fun second => ?_
        cases second with
        | error error => exact (anyhow _).bind fun _ => returned (unchanged _)
        | ok stderrPipe =>
            refine (anyhow _).bind fun redirected => ?_
            cases redirected with
            | error error =>
                exact (anyhow _).bind fun _ => (anyhow _).bind fun _ => returned (unchanged _)
            | ok scopes =>
                refine (anyhow _).bind fun third => ?_
                cases third with
                | error error =>
                    exact (givenUp _ .stdout error rfl fun _ => rfl).bind fun _ =>
                      .value fun _ leads => leads
                | ok thread =>
                    refine (anyhow _).bind fun fourth => ?_
                    cases fourth with
                    | error error =>
                        exact (givenUp _ .stderr error rfl (by simp)).bind fun _ =>
                          .value fun _ leads => leads
                    | ok other => exact returned (started _)

/-- Stopping adds nothing of a stream that no reader was started for. -/
theorem stop_unread (capture : Capture) {taps : PerStream Tap} {stream : Stream}
    (unread : (taps.get stream).thread = none) :
    Ensures (fun _ => True) ({ capture with taps := some taps } : Capture).stop fun stopped _ =>
      stopped.captured.get stream = capture.captured.get stream := by
  have nothing (host : Host) : (joinTap (taps.get stream) host).1.1 = [] := by
    rw [joinTap, unread]
    rfl
  intro host _
  cases stream with
  | stdout => exact (congrArg (capture.captured.stdout ++ ·) (nothing _)).trans (List.append_nil _)
  | stderr => exact (congrArg (capture.captured.stderr ++ ·) (nothing _)).trans (List.append_nil _)

end Capture

end CompileDriver
