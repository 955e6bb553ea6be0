import CompileDriver.Proofs.Driver.Phases
import CompileDriver.Proofs.Driver.Prepared
import CompileDriver.Proofs.Guard.Life

/-!
# Requests conserve the output of the program

What is written to the streams during the call that runs the program is in the result of
the request if it is captured, and reaches the original targets of the streams otherwise.
Nothing that was written before is in the result, unless standard output refuses it when
the capture is started.

The pieces that are written during the call are whatever an account of the call says.
Of what a program writes while the process holds back half a line of its own, it is known
how they overtake each other: `Stream.Arrives`.
-/

namespace CompileDriver

variable {σ : Type} {leaks : Nat → Prop} {owns : σ → Nat → Prop}

namespace Driver

section

variable (driver : Driver σ) (settings : Settings) (arguments : List String)

/-- The host on which the call is made that runs the prepared program. -/
def calledOn (prepared : Host) : Host :=
  (driver.startCapture prepared).2.note (.sessionCall (runCall settings arguments))

/-- What the call that runs the prepared program leads to. -/
def answer (session : σ) (prepared : Host) : (CallEnd × σ) × Host :=
  driver.toolchain.perform session (runCall settings arguments)
    (driver.calledOn settings arguments prepared)

/-- The phase that runs the prepared program. -/
def running (session : σ) (timings : Timings) (prepared : Host) :
    (CallEnd × σ × Timings) × Host :=
  timed "run" timings
    (calling (runCall settings arguments)
      (driver.toolchain.perform session (runCall settings arguments)))
    (driver.startCapture prepared).2

variable (before : Host) (session : σ) (timings : Timings) (prepared : Host)
  (written : Stream → List Piece)

/-- What becomes of the output `written` of a program that is captured. -/
structure CapturesOutput : Prop where
  /-- All that has been written has arrived in the end, and a call that returns leads to a
  result that has it, decoded as a whole. -/
  result : ∃ arrived : Stream → Bytes,
    (∀ stream : Stream, stream.Arrives
      ((driver.calledOn settings arguments prepared).heldBack stream) (written stream)
      (arrived stream) []) ∧
    (∀ (stream : Stream) writer,
      (driver.calledOn settings arguments prepared).heldBack stream = [] →
        (∀ piece ∈ written stream, piece.writer = writer) →
          arrived stream = (written stream).flatMap Piece.bytes) ∧
    ((driver.answer settings arguments session prepared).1.1.returns = true →
      ∃ result, (driver.run settings arguments before).1.1 = .returned result ∧
        result.stdout = Utf8.lossy (arrived .stdout) ∧
        result.stderr = Utf8.lossy (arrived .stderr))
  /-- What is held back when the call is made is what could not be flushed. -/
  unflushed : ∀ stream, (driver.calledOn settings arguments prepared).heldBack stream =
    prepared.stage.unflushed stream
  /-- When standard output can be flushed, nothing is held back any more when the call is
  made. -/
  fresh : prepared.CanFlush →
    ∀ stream, (driver.calledOn settings arguments prepared).heldBack stream = []
  /-- Until the capture is stopped an original target that takes what is written has only got
  what was held back before it was started. -/
  originals : ∀ (stream : Stream) file, before.opened stream.number = some file →
    before.opened.Takes stream.number →
      ((driver.startCapture prepared).1.2.stop
        (driver.running settings arguments session timings prepared).2).2.passedSince prepared
          stream.number file = prepared.heldBack stream

/-- What becomes of the output `written` of a program that is not captured. -/
structure ShowsOutput : Prop where
  /-- The result has no output. -/
  result : (driver.answer settings arguments session prepared).1.1.returns = true →
    ∃ result, (driver.run settings arguments before).1.1 = .returned result ∧
      result.stdout = "" ∧ result.stderr = ""
  /-- All that is written reaches an original target that takes it, but for what is still held
  back. -/
  passes : ∀ (stream : Stream) file, before.opened stream.number = some file →
    before.opened.Takes stream.number →
      stream.Arrives ((driver.calledOn settings arguments prepared).heldBack stream)
        (written stream)
        ((driver.answer settings arguments session prepared).2.passedSince
          (driver.calledOn settings arguments prepared) stream.number file)
        ((driver.answer settings arguments session prepared).2.heldBack stream)
  /-- When standard output is flushed after the request, the rest has reached them, too,
  besides what else was written until then. -/
  flushes : (driver.answer settings arguments session prepared).1.1.returns = true →
    ∃ later : Stream → List Piece, ∀ (stream : Stream) file,
      before.opened stream.number = some file → before.opened.Takes stream.number →
        stream.Arrives
          ((driver.answer settings arguments session prepared).2.heldBack stream)
          (later stream)
          ((Stream.stdout.flush (driver.run settings arguments before).2).2.passedSince
            (driver.answer settings arguments session prepared).2 stream.number file) []

end

/-! ## The call -/

section

variable {driver : Driver σ} {settings : Settings} {arguments : List String} {before : Host}
  {session : σ} {timings : Timings} {prepared : Host} {written : Stream → List Piece}

/-- After the call only its return is noted, and the clock is looked at. -/
theorem running_apply (driver : Driver σ) (settings : Settings) (arguments : List String)
    (session : σ) (timings : Timings) (prepared : Host) :
    ∃ later, (driver.running settings arguments session timings prepared).1 =
        ((driver.answer settings arguments session prepared).1.1,
          (driver.answer settings arguments session prepared).1.2, later) ∧
      Host.Idles (driver.answer settings arguments session prepared).2
        (driver.running settings arguments session timings prepared).2 := by
  obtain ⟨later, measurements, same⟩ := timed_apply "run" timings
    (calling (runCall settings arguments)
      (driver.toolchain.perform session (runCall settings arguments)))
    (driver.startCapture prepared).2
  refine ⟨later, congrArg Prod.fst same, ?_⟩
  rw [running, same]
  have measured (host : Host) : Host.Idles host { host with measurements } :=
    ⟨.of_same rfl rfl, rfl, rfl, rfl, rfl, rfl⟩
  have returned (ended : CallEnd) (host : Host) :
      Host.Idles host (returned (runCall settings arguments) ended host).2 := by
    cases ended with
    | succeeded => exact .note host fun _ _ => Event.noConfusion
    | failed error => exact .note host fun _ _ => Event.noConfusion
    | panicked panic => exact ⟨.refl host, rfl, rfl, rfl, rfl, rfl⟩
  exact (returned _ _).trans (measured _)

/-- A request whose program is prepared runs it and concludes. -/
theorem run_of_prepared (arguments : List String)
    (succeeded : driver.preparing settings before = (.ok (session, timings), prepared)) :
    (driver.run settings arguments before).1.1 =
        (driver.concluding (driver.startCapture prepared).1.1 (driver.startCapture prepared).1.2
          (driver.running settings arguments session timings prepared).1
          (driver.running settings arguments session timings prepared).2).1.1 ∧
      (driver.run settings arguments before).2 =
        (driver.concluding (driver.startCapture prepared).1.1 (driver.startCapture prepared).1.2
          (driver.running settings arguments session timings prepared).1
          (driver.running settings arguments session timings prepared).2).2 := by
  rw [run_eq, Action.bind_apply, succeeded]
  dsimp only
  rw [runPrepared_eq]
  exact ⟨rfl, rfl⟩

/-- The output that a request concludes with. -/
def output (capturing : Bool) (capture : Capture) : Action CapturedOutput :=
  if capturing then capture.intoOutput else pure {}

theorem output_of_capture (capture : Capture) (host : Host) :
    (output true capture host).1 =
      { stdout := Utf8.lossy (capture.stop host).1.captured.stdout
        stderr := Utf8.lossy (capture.stop host).1.captured.stderr } :=
  rfl

/-- After a call that returned the result has the output, and then the times are reported
and the session is closed. -/
theorem concluding_of_returns (driver : Driver σ) (capturing : Bool) (capture : Capture)
    {ended : CallEnd} (returns : ended.returns = true) (session : σ) (timings : Timings)
    (host : Host) :
    (∃ result, (driver.concluding capturing capture (ended, session, timings) host).1.1 =
        .returned result ∧
      result.stdout = (output capturing capture host).1.stdout ∧
      result.stderr = (output capturing capture host).1.stderr) ∧
    (driver.concluding capturing capture (ended, session, timings) host).2 =
      (driver.toolchain.close session
        (reportTimings timings (output capturing capture host).2).2).2 := by
  cases ended with
  | panicked panic => cases returns
  | succeeded => cases capturing <;> exact ⟨⟨_, rfl, rfl, rfl⟩, rfl⟩
  | failed error => cases capturing <;> exact ⟨⟨_, rfl, rfl, rfl⟩, rfl⟩

/-- A request whose call returned returns a result with the output. -/
theorem run_of_returns (arguments : List String)
    (succeeded : driver.preparing settings before = (.ok (session, timings), prepared))
    (returns : (driver.answer settings arguments session prepared).1.1.returns = true) :
    ∃ result, (driver.run settings arguments before).1.1 = .returned result ∧
      result.stdout = (output (driver.startCapture prepared).1.1 (driver.startCapture prepared).1.2
        (driver.running settings arguments session timings prepared).2).1.stdout ∧
      result.stderr = (output (driver.startCapture prepared).1.1 (driver.startCapture prepared).1.2
        (driver.running settings arguments session timings prepared).2).1.stderr := by
  obtain ⟨later, ran, -⟩ := running_apply driver settings arguments session timings prepared
  have concluded := (run_of_prepared arguments succeeded).1
  rw [ran] at concluded
  obtain ⟨⟨result, isResult, stdout, stderr⟩, -⟩ := concluding_of_returns driver
    (driver.startCapture prepared).1.1 (driver.startCapture prepared).1.2 returns
    (driver.answer settings arguments session prepared).1.2 later
    (driver.running settings arguments session timings prepared).2
  exact ⟨result, concluded.trans isResult, stdout, stderr⟩

/-! ## Captured programs -/

/-- The capture of a request begins on the host where the program is prepared. -/
theorem begun_of_captures (fit : prepared.Fit) (captures : driver.Captures prepared)
    {files : PerStream OpenFile}
    (found : ∀ stream : Stream, prepared.opened stream.number = some (files.get stream)) :
    ∃ active started threads, driver.startCapture prepared = ((true, active), started) ∧
      Capture.Begun { capture := { nonblocking := driver.nonblocking }, host := prepared } files
        (fun _ => []) (fun _ => []) prepared.stage threads { nonblocking := driver.nonblocking }
        active started := by
  let first : Capture.Situation :=
    { capture := { nonblocking := driver.nonblocking }, host := prepared }
  have beginning : Capture.Beginning first files := ⟨rfl, fit.wellFormed, fit.reads, found⟩
  have starts := beginning.idle.start beginning
  obtain ⟨capturing, succeeded⟩ := captures
  rcases outcome : first.capture.start prepared with ⟨⟨error | done, active⟩, started⟩
  · rw [show ({ nonblocking := driver.nonblocking } : Capture).start prepared = _ from outcome]
      at succeeded
    cases succeeded
  · rw [outcome] at starts
    obtain ⟨threads, begun⟩ := starts
    refine ⟨active, started, threads, ?_, begun⟩
    simp only [startCapture, capturing, if_true, Action.bind_apply]
    rw [show ({ nonblocking := driver.nonblocking } : Capture).start prepared = _ from outcome]
    rfl

/-- A request that captures returns the texts that its capture holds when it is stopped. -/
theorem returns_captured (arguments : List String)
    (succeeded : driver.preparing settings before = (.ok (session, timings), prepared))
    {active : Capture} {started : Host}
    (same : driver.startCapture prepared = ((true, active), started))
    (returns : (driver.answer settings arguments session prepared).1.1.returns = true) :
    ∃ result, (driver.run settings arguments before).1.1 = .returned result ∧
      result.stdout = Utf8.lossy (active.stop
        (driver.running settings arguments session timings prepared).2).1.captured.stdout ∧
      result.stderr = Utf8.lossy (active.stop
        (driver.running settings arguments session timings prepared).2).1.captured.stderr := by
  obtain ⟨result, isResult, stdout, stderr⟩ := run_of_returns arguments succeeded returns
  rw [same, output_of_capture] at stdout stderr
  exact ⟨result, isResult, stdout, stderr⟩

section

variable {files : PerStream OpenFile} {threads : PerStream Nat} {inert active : Capture}
  {started : Host} {plain earlier : Stream → Bytes} (tidy : driver.toolchain.Tidy owns leaks)
  (held : ∀ number, owns session number → prepared.opened number ≠ none)
  (same : driver.startCapture prepared = ((true, active), started))
  (begun : Capture.Begun { capture := inert, host := prepared } files plain earlier
    prepared.stage threads inert active started)

/-- The capture of a request holds nothing when it begins. -/
theorem captured_of_begun {nonblocking : Bool}
    (begun : Capture.Begun { capture := { nonblocking }, host := prepared } files plain earlier
      prepared.stage threads { nonblocking } active started) (stream : Stream) :
    active.captured.get stream = [] := by
  rw [begun.active.captured]
  cases stream <;> rfl

include tidy held begun

/-- The numbers of the capture are foreign to the session. -/
theorem isForeign_of_begun :
    (prepared.stage.plumbing files threads).IsForeign (started.Foreign (owns session)) := by
  have connects := begun.connects
  have own {number : Nat} (member : number ∈ (prepared.stage.wiring files).numbers) :
      started.Foreign (owns session) number :=
    ⟨connects.taken number member, fun isMine => held number isMine (connects.isFree number member)⟩
  constructor
  · exact fun stream => ⟨(connects.streams stream).1, (tidy.streams stream).2 session⟩
  · exact fun stream => own (Wiring.mem_numbers.mpr ⟨stream, .inl rfl⟩)
  · exact fun stream => own (Wiring.mem_numbers.mpr ⟨stream, .inr (.inl rfl)⟩)
  · exact fun stream => own (Wiring.mem_numbers.mpr ⟨stream, .inr (.inr rfl)⟩)

include same

/-- An active capture is a sink for the call, and what is delivered since the call is made can
be counted. -/
theorem counting_of_begun (settings : Settings) (arguments : List String) :
    HardySink Stream.Each ((driver.calledOn settings arguments prepared).Foreign (owns session))
      fun taken host => Host.Tapping (prepared.stage.plumbing files threads) started taken host ∧
        Host.Counted (driver.calledOn settings arguments prepared) taken host := by
  have foreign : (driver.calledOn settings arguments prepared).Foreign (owns session) =
      started.Foreign (owns session) := by
    rw [calledOn, same]
    rfl
  rw [foreign]
  exact (Host.tapping_hardy (isForeign_of_begun tidy held begun) started).counting _

/-- When the call is made the capture taps the streams, and has been written nothing. -/
theorem tapping_of_begun (settings : Settings) (arguments : List String) :
    Host.Tapping (prepared.stage.plumbing files threads) started (fun _ => [])
      (driver.calledOn settings arguments prepared) := by
  have tapping := Host.tapping_hardy (isForeign_of_begun tidy held begun) started
  have noted : Host.Idles started (driver.calledOn settings arguments prepared) := by
    rw [calledOn, same]
    exact .note started fun _ _ => Event.noConfusion
  exact tapping.aside (begun.active.tapping begun.clear) noted.aside

variable (deeds : Host.Deeds ((driver.calledOn settings arguments prepared).Foreign (owns session))
  (driver.calledOn settings arguments prepared) written
  (driver.answer settings arguments session prepared).2)

include deeds

/-- Everything that is written during the call goes to the capture. -/
theorem ledger_of_begun :
    Host.Ledger Stream.Each
      (fun taken host => Host.Tapping (prepared.stage.plumbing files threads) started taken host ∧
        Host.Counted (driver.calledOn settings arguments prepared) taken host)
      (driver.calledOn settings arguments prepared).heldBack written
      (driver.answer settings arguments session prepared).2 := by
  have called := tapping_of_begun tidy held same begun settings arguments
  exact (counting_of_begun tidy held same begun settings arguments).deeds
    ⟨_, ⟨called, .initially _⟩, fun stream _ => .initially _ stream⟩ deeds

/-- From its start to its stop everything that is written goes to the capture. -/
theorem gathered_of_begun (timings : Timings) :
    ∃ taken flushed, Capture.Gathered
      (Host.Tapping (prepared.stage.plumbing files threads) started) prepared.stage.pipes
      (driver.calledOn settings arguments prepared).heldBack written active
      (active.stop (driver.running settings arguments session timings prepared).2).1 taken flushed
      (active.stop (driver.running settings arguments session timings prepared).2).2 := by
  obtain ⟨later, ran, idles⟩ := running_apply driver settings arguments session timings prepared
  obtain ⟨taken, ⟨tapping, -⟩, arrives⟩ :=
    (counting_of_begun tidy held same begun settings arguments).idles
      (ledger_of_begun tidy held same begun deeds) idles
  exact Capture.stop_gathers begun.active.taps begun.connects.apart (Host.tapping_sink _ started) id
    (fun thread tapping => tapping.askToStop thread) ⟨taken, tapping, arrives⟩

end

/-- What is held back when the call is made is what could not be flushed at the start. -/
theorem heldBack_of_begun (same : driver.startCapture prepared = ((true, active), started))
    (begun : Capture.Begun { capture := inert, host := prepared } files plain earlier
      prepared.stage threads inert active started) (stream : Stream) :
    (driver.calledOn settings arguments prepared).heldBack stream =
      prepared.stage.unflushed stream := by
  rw [calledOn, same]
  exact congrFun (begun.clear.heldBack begun.active.lineBuffer) stream

/-- From the start of the capture to its end an original target gets what was held back before,
and nothing else. -/
theorem passed_of_begun {buffered : Stream → Bytes} {taken : Stream → Bytes} {flushed last : Host}
    {captured : Capture}
    (begun : Capture.Begun { capture := inert, host := prepared } files (fun _ => [])
      (fun _ => []) prepared.stage threads inert active started)
    (gathered : Capture.Gathered
      (Host.Tapping (prepared.stage.plumbing files threads) started) prepared.stage.pipes
      buffered written active captured taken flushed last)
    {stream : Stream} (flowing : prepared.opened.Flows stream) :
    last.passedSince prepared stream.number (files.get stream) = prepared.heldBack stream := by
  have whole := (begun.books.accounts.arrives stream flowing).in_order fun isStderr =>
    isStderr ▸ rfl
  have empty : started.heldBack stream = [] := by
    cases stream with
    | stdout => exact begun.empty flowing
    | stderr => rfl
  rw [empty, List.append_nil, List.append_nil] at whole
  have begunGrown := begun.books.accounts.grown
  have grown := gathered.taking.grown.trans gathered.released.mute.grown
  have passed : flushed.passedSince started stream.number (files.get stream) = [] :=
    gathered.taking.passed stream
  rw [Host.passedSince_trans begunGrown grown,
    gathered.released.mute.passedSince gathered.taking.grown, passed, List.append_nil]
  exact whole

/-- What is written during the call is in the result if the capture has started. -/
theorem captures_output (tidy : driver.toolchain.Tidy owns leaks) (fit : prepared.Fit)
    (holding : Holding leaks (fun _ => False) before.opened before.threads (owns session) prepared)
    (isOpen : ∀ stream : Stream, before.opened stream.number ≠ none)
    (succeeded : driver.preparing settings before = (.ok (session, timings), prepared))
    (deeds : Host.Deeds ((driver.calledOn settings arguments prepared).Foreign (owns session))
      (driver.calledOn settings arguments prepared) written
      (driver.answer settings arguments session prepared).2)
    (captures : driver.Captures prepared) :
    driver.CapturesOutput settings arguments before session timings prepared written := by
  have kept (number : Nat) (used : before.opened number ≠ none) :
      prepared.opened number = before.opened number :=
    holding.keeps.kept number not_false used
  obtain ⟨files, clear⟩ := fit.wellFormed.clear fun stream =>
    (kept _ (isOpen stream)).symm ▸ isOpen stream
  obtain ⟨active, started, threads, same, begun⟩ := begun_of_captures fit captures clear.streams
  obtain ⟨taken, flushed, gathered⟩ := gathered_of_begun tidy
    holding.keeps.held same begun deeds timings
  have unflushed (stream : Stream) : (driver.calledOn settings arguments prepared).heldBack stream =
      prepared.stage.unflushed stream := heldBack_of_begun same begun stream
  constructor
  · refine ⟨taken, gathered.arrives, fun stream writer nothing only => ?_, fun returns => ?_⟩
    · have arrives := gathered.arrives stream
      rw [nothing] at arrives
      exact arrives.whole only
    · obtain ⟨result, isResult, stdout, stderr⟩ :=
        returns_captured arguments succeeded same returns
      have captured (stream : Stream) : (active.stop
          (driver.running settings arguments session timings prepared).2).1.captured.get stream =
            taken stream := by
        rw [gathered.released.captured, captured_of_begun begun, List.nil_append]
      refine ⟨result, isResult, ?_, ?_⟩
      · rw [stdout, ← captured .stdout]
        rfl
      · rw [stderr, ← captured .stderr]
        rfl
  · exact unflushed
  · exact fun flushes stream => (unflushed stream).trans (flushes.unflushed stream)
  · rintro stream file foundFile takes
    have foundStill : prepared.opened stream.number = some file :=
      (kept _ (isOpen stream)).trans foundFile
    obtain rfl : files.get stream = file :=
      Option.some.inj ((clear.streams stream).symm.trans foundStill)
    rw [same]
    exact passed_of_begun begun gathered (takes.kept kept)

/-! ## Programs that are not captured -/

theorem startCapture_of_not_captures (tidy : driver.toolchain.Tidy owns leaks) {base : OpenFiles}
    {threads : List (Nat × Nat)}
    (holding : Holding leaks (fun _ => False) base threads (owns session) prepared)
    (notCaptured : ¬ driver.Captures prepared) :
    (driver.startCapture prepared).1.1 = false ∧
      Holding leaks (fun _ => False) base threads (owns session)
        (driver.startCapture prepared).2 := by
  obtain ⟨captured, inactive⟩ := Ensures.startCaptured driver
    (fun stream => (tidy.streams stream).2 session) prepared holding
  have notCapturing : (driver.startCapture prepared).1.1 = false := by
    unfold startCapture
    cases capturing : driver.capturing with
    | false => rfl
    | true =>
        simp only [if_true, Action.bind_apply]
        rcases outcome : ({ nonblocking := driver.nonblocking } : Capture).start prepared with
          ⟨⟨error | done, active⟩, host⟩
        · rfl
        · exact absurd ⟨capturing, by rw [outcome]⟩ notCaptured
  refine ⟨notCapturing, ?_⟩
  rcases captured with ⟨-, holding⟩ | ⟨_, _, _, _, _, active, -⟩
  · exact holding
  · rw [inactive notCapturing] at active
    cases active

/-- What was open before the request is foreign to its session. -/
theorem foreign_of_holding {base : OpenFiles} {threads : List (Nat × Nat)} {mine : Nat → Prop}
    {host : Host} (holding : Holding leaks (fun _ => False) base threads mine host) (number : Nat)
    (used : base number ≠ none) : host.Foreign mine number := by
  constructor
  · rw [holding.keeps.kept number not_false used]
    exact used
  · intro isMine
    rcases holding.keeps.claimed number isMine with none | isFree
    · exact none
    · exact used isFree

/-- What a request does after a call that returned keeps the books of the original
targets. -/
theorem keepsBooks_closing (timings : Timings)
    (accountable : driver.toolchain.Accountable owns) {files : PerStream OpenFile}
    (found : ∀ stream : Stream, before.opened stream.number = some (files.get stream))
    {base host : Host} {held : Stream → Bytes}
    (holding : Holding leaks (fun _ => False) before.opened before.threads (owns session) host)
    (booked : ∃ pieces, Host.Ledger before.opened.Flows (Host.Reaching before.opened base files)
      held pieces host) :
    ∃ pieces, Host.Ledger before.opened.Flows (Host.Reaching before.opened base files) held pieces
      (driver.toolchain.close session (reportTimings timings host).2).2 := by
  have anywhere := Host.reaching_hardy found (fun number used => used) base
  have reporting : KeepsBooks before.opened.Flows (Host.Reaching before.opened base files) held
      (reportTimings timings) := by
    apply Discipline.Governs.look
    intro host booked
    split
    · exact Discipline.Governs.each (fun _ _ => KeepsBooks.debug anywhere _) host booked
    · exact .value trivial
  obtain ⟨pieces, ledger⟩ := (reporting host booked).1 booked
  have still := Holding.frame.reportTimings timings host holding
  have sink := Host.reaching_hardy found (foreign_of_holding still) base
  obtain ⟨more, deeds⟩ := accountable.close session (reportTimings timings host).2
  exact ⟨_, sink.deeds ledger deeds⟩

/-- What is held back after a call that returned has reached the original targets when
standard output is flushed after the request. -/
theorem flushes_output (tidy : driver.toolchain.Tidy owns leaks)
    (accountable : driver.toolchain.Accountable owns)
    (notCapturing : (driver.startCapture prepared).1.1 = false)
    (visible : Holding leaks (fun _ => False) before.opened before.threads (owns session)
      (driver.startCapture prepared).2)
    (succeeded : driver.preparing settings before = (.ok (session, timings), prepared))
    {files : PerStream OpenFile}
    (found : ∀ stream : Stream, before.opened stream.number = some (files.get stream))
    (retains : Host.Retains before.opened (driver.answer settings arguments session prepared).2)
    (returns : (driver.answer settings arguments session prepared).1.1.returns = true) :
    ∃ later : Stream → List Piece, ∀ stream : Stream, before.opened.Flows stream →
      stream.Arrives ((driver.answer settings arguments session prepared).2.heldBack stream)
        (later stream)
        ((Stream.stdout.flush (driver.run settings arguments before).2).2.passedSince
          (driver.answer settings arguments session prepared).2 stream.number
            (files.get stream)) [] := by
  obtain ⟨later, ran, idles⟩ := running_apply driver settings arguments session timings prepared
  have ends := (run_of_prepared arguments succeeded).2
  have held : Holding leaks (fun _ => False) before.opened before.threads
      (owns (driver.running settings arguments session timings prepared).1.2.1)
      (driver.running settings arguments session timings prepared).2 :=
    (Holding.frame.course tidy).timed
      (Holding.frame.calling tidy session (runCall settings arguments)) "run" timings _ visible
  rw [ran] at ends held
  rw [notCapturing, (concluding_of_returns driver false _ returns _ later _).2] at ends
  have sink := Host.reaching_hardy found (fun number used => used)
    (driver.answer settings arguments session prepared).2
  have returned := sink.idles (Host.reaching_initially found retains) idles
  obtain ⟨more, closed⟩ := keepsBooks_closing later accountable found held ⟨_, returned⟩
  obtain ⟨⟨taken, ⟨passing, -⟩, arrives⟩, empty⟩ := sink.toSink.flush .stdout _ closed
  refine ⟨more, fun stream flowing => ?_⟩
  have nothing : (Stream.stdout.flush (driver.toolchain.close
      (driver.answer settings arguments session prepared).1.2 (reportTimings later
        (driver.running settings arguments session timings prepared).2).2).2).2.heldBack stream =
      [] := by
    cases stream with
    | stdout => exact empty flowing
    | stderr => rfl
  have whole := arrives stream flowing
  rw [← passing.passed stream flowing, nothing] at whole
  rw [ends]
  exact whole

/-- What is written during the call reaches the original targets if there is no capture. -/
theorem shows_output (tidy : driver.toolchain.Tidy owns leaks)
    (accountable : driver.toolchain.Accountable owns)
    (holding : Holding leaks (fun _ => False) before.opened before.threads (owns session) prepared)
    (isOpen : ∀ stream : Stream, before.opened stream.number ≠ none)
    (succeeded : driver.preparing settings before = (.ok (session, timings), prepared))
    (deeds : Host.Deeds ((driver.calledOn settings arguments prepared).Foreign (owns session))
      (driver.calledOn settings arguments prepared) written
      (driver.answer settings arguments session prepared).2)
    (notCaptured : ¬ driver.Captures prepared) :
    driver.ShowsOutput settings arguments before session prepared written := by
  obtain ⟨files, found⟩ := OpenFiles.exists_files isOpen
  have isFile {stream : Stream} {file : OpenFile}
      (foundFile : before.opened stream.number = some file) : files.get stream = file :=
    Option.some.inj ((found stream).symm.trans foundFile)
  obtain ⟨notCapturing, visible⟩ := startCapture_of_not_captures tidy holding notCaptured
  have called : Holding leaks (fun _ => False) before.opened before.threads (owns session)
      (driver.calledOn settings arguments prepared) := Holding.frame.note _ _ visible
  have retains : Host.Retains before.opened (driver.calledOn settings arguments prepared) :=
    fun number used => called.keeps.kept number not_false used
  obtain ⟨taken, ⟨passing, retained⟩, arrives⟩ := (Host.reaching_hardy found
    (foreign_of_holding called) (driver.calledOn settings arguments prepared)).deeds
      (Host.reaching_initially found retains) deeds
  constructor
  · intro returns
    obtain ⟨result, isResult, stdout, stderr⟩ := run_of_returns arguments succeeded returns
    rw [notCapturing] at stdout stderr
    exact ⟨result, isResult, stdout, stderr⟩
  · intro stream file foundFile takes
    obtain rfl := isFile foundFile
    rw [passing.passed stream takes]
    exact arrives stream takes
  · intro returns
    obtain ⟨later, arrives⟩ := flushes_output tidy accountable notCapturing visible succeeded found
      retained returns
    refine ⟨later, fun stream file foundFile takes => ?_⟩
    obtain rfl := isFile foundFile
    exact arrives stream takes

/-! ## Requests -/

/-- A request that panics does not return. -/
theorem unwind_ne_returned {panic : Panic} {cleanup : Action Unit} {host : Host}
    {result : BuildResult} : (unwind panic cleanup host).1 ≠ .returned result := by
  intro same
  rw [unwind, Action.bind_apply] at same
  cases raised : (panic.raise host).1 with
  | none => simp [raised] at same
  | some code => simp [raised] at same

/-- A request whose program is not run has no output. -/
theorem result_of_unprepared {reached : Ending BuildResult × Driver σ} {result : BuildResult}
    (unprepared : (driver.preparing settings before).1 = .error reached)
    (returned : reached.1 = .returned result) : result.stdout = "" ∧ result.stderr = "" := by
  rw [preparing, Action.bind_apply, Action.bind_apply] at unprepared
  rcases outcome : create driver.toolchain settings
    (Suppressor.engage .stderr settings.quiet before).2 with ⟨panic | session, host⟩
  all_goals rw [outcome] at unprepared
  · cases unprepared
    exact absurd returned unwind_ne_returned
  · dsimp only at unprepared
    rw [Action.bind_apply] at unprepared
    rcases prepared : prepare driver.toolchain settings session host with
      ⟨⟨_ | error | panic, now, recorded⟩, later⟩
    all_goals rw [prepared] at unprepared
    · cases unprepared
    · cases unprepared
      cases returned
      exact ⟨rfl, rfl⟩
    · cases unprepared
      exact absurd returned unwind_ne_returned

end

/-- Requests conserve the output of their program.  With a toolchain that touches no
descriptor of others, from every host whose streams are open: whatever account is given of
the call that runs the program, what it says was written is in the result if the capture
has started, and has reached the original targets otherwise.  A request whose program is
not run has no output. -/
theorem runs_conserve_output (driver : Driver σ) (tidy : driver.toolchain.Tidy owns leaks)
    (accountable : driver.toolchain.Accountable owns) (settings : Settings)
    (arguments : List String) {before : Host} (wellFormed : before.WellFormed)
    (readsSucceed : before.NoReadFailures)
    (isOpen : ∀ stream : Stream, before.opened stream.number ≠ none) :
    (∀ reached, (driver.preparing settings before).1 = .error reached →
      ∀ result, (driver.run settings arguments before).1.1 = .returned result →
        result.stdout = "" ∧ result.stderr = "") ∧
    ∀ session timings prepared,
      driver.preparing settings before = (.ok (session, timings), prepared) →
        ∀ written, Host.Deeds ((driver.calledOn settings arguments prepared).Foreign (owns session))
            (driver.calledOn settings arguments prepared) written
            (driver.answer settings arguments session prepared).2 →
          (driver.Captures prepared →
            driver.CapturesOutput settings arguments before session timings prepared written) ∧
          (¬ driver.Captures prepared →
            driver.ShowsOutput settings arguments before session prepared written) := by
  constructor
  · intro reached unprepared result returned
    apply result_of_unprepared unprepared
    rw [← returned, run_eq, Action.bind_apply, unprepared]
    rfl
  · intro session timings prepared succeeded written deeds
    obtain ⟨holding, fit⟩ := prepared_fit settings tidy accountable ⟨wellFormed, readsSucceed⟩
      session timings (congrArg Prod.fst succeeded)
    rw [succeeded] at holding fit
    constructor
    · exact captures_output tidy fit holding isOpen succeeded deeds
    · exact shows_output tidy accountable holding isOpen succeeded deeds

/-- Every program writes a line to standard output. -/
def echoing : Launcher := fun _ files =>
  .ok { output := [⟨.stdout, Bytes.ofText "child\n", 0⟩], files, status := .exited 0 }

/-- A script that compiles with half a line of output, and whose program writes another one. -/
def halfLine : ToolchainScript :=
  { compile := { actions := [.write .stdout (Bytes.ofText "half")] }
    run := { actions := [.write .stdout (Bytes.ofText "x\n")] } }

/-- Half a line that is written before the program runs and that standard output cannot pass on
is in the result, in front of what the program writes. -/
theorem unflushed_output_is_returned :
    let driver : Driver Unit := { toolchain := halfLine.toolchain echoing }
    let settings : Settings := { argv0 := [], input := [] }
    let host := Host.unread []
    let prepared := (driver.preparing settings host).2
    host.WellFormed ∧ (∀ stream : Stream, host.opened stream.number ≠ none) ∧
      driver.Captures prepared ∧
      ToolchainScript.account echoing halfLine.run.actions
        (driver.calledOn settings [] prepared) .stdout = [⟨.process, Bytes.ofText "x\n"⟩] ∧
      (driver.run settings [] host).1.1 = .returned { status := 0, stdout := "halfx\n" } := by
  intro driver settings host prepared
  refine ⟨Host.wellFormed_unread [], ?_, ⟨rfl, by decide +kernel⟩, rfl, by decide +kernel⟩
  rintro (_ | _) <;> decide

/-- A script that compiles with half a line of output, and whose program writes the three
bytes of a character one by one, with a program of its own in between, and fails. -/
def splitCharacter : ToolchainScript :=
  { compile := { actions := [.write .stdout (Bytes.ofText "compiling")] }
    run :=
      { actions :=
          [.write .stdout [0xE2], .child (Bytes.ofText "echo child"), .write .stdout [0x82],
            .write .stderr [0xFF], .write .stdout [0xAC]]
        failure := some { kind := .runtime, rendered := "broken" } } }

/-- The output of a failing program is captured: what its child writes overtakes half a
character, and what was written before the capture is not in the result. -/
theorem runs_conserve_output_split_character :
    let driver : Driver Unit := { toolchain := splitCharacter.toolchain echoing }
    let settings : Settings := { argv0 := [], input := [] }
    let host := Host.start [] [] []
    let prepared := (driver.preparing settings host).2
    driver.Captures prepared ∧
      (driver.run settings [] host).1.1 = .returned
        { status := 1, error := some "broken", stdout := "child\n€", stderr := "\uFFFD" } ∧
      driver.CapturesOutput settings [] host () {} prepared
        (ToolchainScript.account echoing splitCharacter.run.actions
          (driver.calledOn settings [] prepared)) := by
  intro driver settings host prepared
  have captures : driver.Captures prepared := ⟨rfl, by decide +kernel⟩
  have succeeded : driver.preparing settings host = (.ok ((), {}), prepared) := rfl
  have isOpen (stream : Stream) : host.opened stream.number ≠ none := by
    cases stream <;> exact nofun
  have wellFormed : host.WellFormed := Host.wellFormed_start [] [] []
  have reads : host.NoReadFailures := List.forall_mem_nil _
  refine ⟨captures, by decide +kernel, ?_⟩
  have conserved := (runs_conserve_output driver (splitCharacter.tidy echoing)
    (splitCharacter.accountable echoing) settings [] wellFormed reads isOpen).2 () {} prepared
    succeeded _ (ToolchainScript.deeds_run echoing splitCharacter () _ _ _)
  exact conserved.1 captures

end Driver

end CompileDriver
