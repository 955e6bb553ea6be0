import CompileDriver.Proofs.Codon.Voices

/-!
# The output of programs

A request to run a program executes the artifact that the compiler has written.  While its
streams are captured the program inherits them, so that everything that it writes, from its
start to its end, is what the request has captured.
-/

namespace CompileDriver

namespace Spawn

variable (launcher : Launcher) (invocation : Invocation) (host : Host)

/-- What a program that inherits the streams does, unless it cannot be started. -/
def execution : Option Execution :=
  match invocation.check with
  | .error _ => none
  | .ok () => (launcher { invocation with closed := closedStreams host } host.files).toOption

/-- What a program writes is passed on to the streams. -/
theorem account_eq :
    account launcher invocation host =
      (execution launcher invocation host).elim (fun _ => []) fun execution =>
        host.passedOn execution.output := by
  unfold account execution
  cases invocation.check with
  | error error => rfl
  | ok done =>
      dsimp only
      cases launcher { invocation with closed := closedStreams host } host.files with
      | error error => rfl
      | ok execution => rfl

end Spawn

namespace Host

variable {host : Host}

theorem program_of_mem_passedOn {output : List Written} {stream : Stream} {piece : Piece}
    (member : piece ∈ host.passedOn output stream) : piece.writer = .program := by
  obtain ⟨write, -, passed⟩ := List.mem_flatMap.mp member
  unfold Stream.only at passed
  split at passed
  · split at passed
    · rw [List.mem_singleton.mp passed]
    · cases passed
  · cases passed

end Host

/-- When nothing is held or leaked, everything is as it was. -/
theorem Holding.still {before host : Host}
    (holding : Holding (fun _ => False) (fun _ => False) before.opened before.threads
      (fun _ => False) host) : before.Still host := by
  refine ⟨?_, holding.threads⟩
  funext number
  by_cases wasFree : before.opened number = none
  · rw [wasFree]
    by_contra used
    rcases holding.keeps.known number used with ⟨wasOpen, -⟩ | isHeld | leaked
    · exact wasOpen wasFree
    · exact isHeld
    · exact leaked
  · exact holding.keeps.kept number not_false wasFree

namespace Codon

variable (launcher : Launcher) (binary : Path)

/-- What the program of a session does when it is run, unless there is none, or it cannot be
started. -/
def Session.program (session : Session) (arguments : List String) (host : Host) :
    Option Execution :=
  session.artifact.bind fun artifact =>
    Spawn.execution launcher (programInvocation host artifact arguments) host

/-- What a session writes while it runs its program. -/
def Session.account (session : Session) (arguments : List String) (host : Host) :
    Stream → List Piece :=
  (session.program launcher arguments host).elim (fun _ => []) fun execution =>
    host.passedOn execution.output

theorem Session.deeds_run {foreign : Nat → Prop} (session : Session) (arguments : List String)
    (host : Host) :
    Host.Deeds foreign host (session.account launcher arguments host)
      (session.run launcher arguments host).2 := by
  unfold account program run
  cases session.artifact with
  | none => exact .none
  | some artifact =>
      have ran : Host.Deeds foreign host
          ((Spawn.execution launcher (programInvocation host artifact arguments) host).elim
            (fun _ => []) fun execution => host.passedOn execution.output)
          (Spawn.inheriting launcher (programInvocation host artifact arguments) host).2 := by
        rw [← Spawn.account_eq]
        exact Spawn.deeds_inheriting launcher _ host
      dsimp only [Option.bind]
      rw [Action.bind_apply, Action.get_apply]
      dsimp only
      rw [Action.bind_apply]
      rcases outcome : Spawn.inheriting launcher (programInvocation host artifact arguments) host
        with ⟨error | status, later⟩
      all_goals rw [outcome] at ran
      · exact ran
      · dsimp only
        split
        · exact ran
        · exact ran

/-- Everything in the account comes from the program. -/
theorem Session.account_programs (session : Session) (arguments : List String) (host : Host)
    (stream : Stream) :
    ∀ piece ∈ session.account launcher arguments host stream, piece.writer = .program := by
  unfold account
  cases session.program launcher arguments host with
  | none => exact List.forall_mem_nil _
  | some execution => exact fun _ => Host.program_of_mem_passedOn

/-- What the program of a request does when it is run, if the request gets that far. -/
def program (driver : Driver Session) (settings : Settings) (arguments : List String)
    (host : Host) : Option Execution :=
  match driver.preparing settings host with
  | (.error _, _) => none
  | (.ok (session, _), prepared) =>
      session.program launcher (Driver.programArguments settings arguments)
        (driver.calledOn settings arguments prepared)

variable {launcher binary} {driver : Driver Session} {settings : Settings} {before : Host}

/-- A captured program inherits both streams. -/
theorem inherits_of_captures {prepared : Host} (fit : prepared.Fit)
    (captures : driver.Captures prepared)
    (isOpen : ∀ stream : Stream, prepared.opened stream.number ≠ none) (arguments : List String)
    (stream : Stream) :
    (driver.calledOn settings arguments prepared).inherits stream = true := by
  obtain ⟨files, found⟩ := OpenFiles.exists_files isOpen
  obtain ⟨active, started, threads, same, begun⟩ := Driver.begun_of_captures fit captures found
  have inherited := begun.active.capturing.feeding.streams stream
  have called : (driver.calledOn settings arguments prepared).table = started.table := by
    rw [Driver.calledOn, same]
    rfl
  rw [Host.inherits, called, inherited]
  rfl

section

variable (isCodon : driver.toolchain = toolchain launcher binary) (fit : before.Fit)

include isCodon fit

/-- A program is prepared on a fit host, and everything is as it was. -/
theorem prepared_fit (isOpen : ∀ stream : Stream, before.opened stream.number ≠ none)
    {session : Session} {timings : Timings} {prepared : Host}
    (succeeded : driver.preparing settings before = (.ok (session, timings), prepared)) :
    Holding (fun _ => False) (fun _ => False) before.opened before.threads (fun _ => False)
        prepared ∧ prepared.Fit := by
  have tidied : driver.toolchain.Tidy (fun _ _ => False) fun _ => False :=
    isCodon ▸ tidy launcher binary
  have quiet : driver.toolchain.Discreet := isCodon ▸ discreet launcher binary
  have letsPerform : aging.LetsPerform driver.toolchain := isCodon ▸ ages launcher binary
  have holding := (Driver.saw_preparing settings tidied quiet isOpen).2 session timings
    (congrArg Prod.fst succeeded)
  obtain ⟨⟨grows, schedule⟩, -⟩ := letsPerform.preparing settings before trivial
  rw [succeeded] at holding grows schedule
  exact ⟨holding, fit.wellFormed.still holding.still grows, fit.reads.later schedule⟩

/-- A captured program is conserved, and it inherits both streams. -/
theorem captures_program (isOpen : ∀ stream : Stream, before.opened stream.number ≠ none)
    {session : Session} {timings : Timings} {prepared : Host} (arguments : List String)
    (succeeded : driver.preparing settings before = (.ok (session, timings), prepared))
    (captures : driver.Captures prepared) :
    driver.CapturesOutput settings arguments before session timings prepared
        (session.account launcher (Driver.programArguments settings arguments)
          (driver.calledOn settings arguments prepared)) ∧
      ∀ stream, (driver.calledOn settings arguments prepared).inherits stream = true := by
  obtain ⟨holding, preparedFit⟩ := prepared_fit isCodon fit isOpen succeeded
  have tidied : driver.toolchain.Tidy (fun _ _ => False) fun _ => False :=
    isCodon ▸ tidy launcher binary
  let called := driver.calledOn settings arguments prepared
  have answered : (driver.answer settings arguments session prepared).2 =
      (session.run launcher (Driver.programArguments settings arguments) called).2 := by
    rw [Driver.answer, isCodon]
    rfl
  have deeds : Host.Deeds (called.Foreign fun _ => False) called
      (session.account launcher (Driver.programArguments settings arguments) called)
      (driver.answer settings arguments session prepared).2 :=
    answered ▸ session.deeds_run launcher _ called
  refine ⟨Driver.captures_output tidied preparedFit holding isOpen succeeded deeds captures, ?_⟩
  exact inherits_of_captures preparedFit captures
    (fun stream => holding.still.1 ▸ isOpen stream) arguments

end

end Codon

end CompileDriver
