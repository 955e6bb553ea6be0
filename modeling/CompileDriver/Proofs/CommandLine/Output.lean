import CompileDriver.CommandLine.Execute
import CompileDriver.Proofs.Frontend.Showing

/-!
# The output of a command line

What is seen of a whole run: the version of the compiler, if it is asked for, the diagnostics
of the compiler, if they are not hidden, and then the output of the program, which was captured
and is printed at the end, followed by the line about the executable or by the report of the
error.  Whatever was left in the line buffer is written out before the process exits.
-/

namespace CompileDriver

namespace Bytes

@[simp]
theorem ofText_empty : ofText "" = [] :=
  rfl

end Bytes

/-! ## Printing -/

namespace Host

/-- The process has just been started, with both its streams. -/
structure Fresh (host : Host) : Prop where
  fit : host.Fit
  streams : ∀ stream : Stream, host.opened stream.number = some (.initial stream)
  lineBuffer : host.lineBuffer = []
  logger : host.logger = none

theorem Fresh.start (directory temporary executableDirectory : Place) (files : FileTree) :
    Fresh { Host.start directory temporary executableDirectory with files } where
  fit :=
    have wellFormed := wellFormed_start directory temporary executableDirectory
    ⟨⟨wellFormed.readers, wellFormed.writers, wellFormed.threads, wellFormed.sources⟩, nofun⟩
  streams stream := by cases stream <;> rfl
  lineBuffer := rfl
  logger := rfl

/-- The streams are the initial ones, and their targets have received `taken` since `base`. -/
structure Receiving (base : Host) (taken : Stream → Bytes) (host : Host) : Prop where
  streams : ∀ stream : Stream, host.opened stream.number = some (.initial stream)
  received : ∀ stream, host.received.get stream = base.received.get stream ++ taken stream

theorem voiced_initial {host : Host} {stream : Stream}
    (isInitial : host.opened stream.number = some (.initial stream)) (bytes : Bytes) :
    host.voiced stream bytes = stream.only bytes := by
  rw [voiced, isInitial]

/-- The initial targets take what is written to them. -/
theorem write_initial {host : Host} {stream : Stream}
    (isInitial : host.opened stream.number = some (.initial stream)) (bytes : Bytes) :
    (SystemCall.write stream.number bytes host).1 = .ok () ∧
      host.Tells (stream.only bytes) (SystemCall.write stream.number bytes host).2 ∧
      host.Still (SystemCall.write stream.number bytes host).2 := by
  have spoken : Utterances (fun _ => False) host (SystemCall.write stream.number bytes host).2 :=
    (Speaks.write not_false bytes host trivial).1
  refine ⟨?_, voiced_initial isInitial bytes ▸ host.tells_write stream bytes, spoken.still⟩
  rw [SystemCall.write_open isInitial]
  rfl

theorem receiving_sink (base : Host) : Sink Stream.Each (Receiving base) where
  writes := by
    intro taken host stream bytes _ receiving
    obtain ⟨succeeded, tells, still⟩ := write_initial (receiving.streams stream) bytes
    refine ⟨succeeded, fun other => ?_, fun other => ?_⟩
    · rw [still.1]
      exact receiving.streams other
    · rw [tells.received, receiving.received, List.append_assoc]
  strays _ stray := absurd trivial stray
  buffers lineBuffer receiving := ⟨receiving.streams, receiving.received⟩

/-- Since `base` the process has written `said` to its streams, where all of it has arrived, but
for what it still holds back. -/
def Printed (base : Host) (said : Stream → Bytes) : Host → Prop :=
  Ledger Stream.Each (Receiving base) (fun _ => []) fun stream => [⟨.process, said stream⟩]

theorem Printed.initially {base : Host}
    (streams : ∀ stream : Stream, base.opened stream.number = some (.initial stream))
    (empty : base.lineBuffer = []) : Printed base (fun _ => []) base := by
  refine ⟨fun _ => [], ⟨streams, fun _ => (List.append_nil _).symm⟩, fun stream _ => ?_⟩
  rw [heldBack_eq_nil empty]
  cases stream with
  | stdout => rfl
  | stderr => exact ⟨rfl, rfl⟩

end Host

section

variable {base : Host} {said : Stream → Bytes}

theorem Ensures.print (stream : Stream) (text : String) :
    Ensures (Host.Printed base said) ((Output.standard stream).print text) fun _ =>
      Host.Printed base fun other => said other ++ stream.only (Bytes.ofText text) other := by
  intro host printed
  obtain ⟨taken, receiving, arrives⟩ :=
    (Host.receiving_sink base).writeStream stream (Bytes.ofText text) host printed
  exact ⟨taken, receiving, fun other each => (arrives other each).merged⟩

end

namespace CommandLine

/-! ## Presenting an outcome -/

section

variable {σ : Type} (frontend : Frontend σ) (source : Path)

/-- The line about the executable that a build has written. -/
def builtLine (outcome : Except RequestError RunOutput) : String :=
  let output := frontend.options.outputPath.getD (Path.defaultOutput source)
  if outcome.isOk && !frontend.options.runAfterBuild then
    s!"Built executable at {output.display}\n"
  else ""

@[simp]
theorem builtLine_error (error : RequestError) :
    builtLine frontend source (.error error) = "" :=
  rfl

variable {frontend} in
@[simp]
theorem builtLine_run (runs : frontend.options.runAfterBuild = true)
    (outcome : Except RequestError RunOutput) : builtLine frontend source outcome = "" := by
  simp [builtLine, runs]

variable {frontend} in
@[simp]
theorem builtLine_build (builds : frontend.options.runAfterBuild = false) (output : RunOutput) :
    builtLine frontend source (.ok output) =
      s!"Built executable at {(frontend.outputFor source).display}\n" := by
  simp [builtLine, builds, Except.isOk, Except.toBool, Frontend.outputFor]

/-- The exit code for an outcome. -/
def exitCode (outcome : Except RequestError RunOutput) : Nat :=
  if outcome.isOk then 0 else 1

variable {base : Host} {said : Stream → Bytes}

end

/-! ## Whole runs -/

section

variable (launcher : Launcher) (given : Arguments) (before : Host)

/-- The process with its panic hook and its logger. -/
def equipped : Host :=
  { before with
    panicHook := .crashReport
    logger := some { output := some (.standard .stdout), error := some (.standard .stderr) }
    threshold := some .warn }

/-- The front end of a command line. -/
def frontend : Frontend Codon.Session :=
  .codon launcher (equipped before) (given.options (equipped before))

end

section

variable {launcher : Launcher} {given : Arguments} {before : Host}

end

/-- A command line that asks for the version and for the diagnostics, and what it describes. -/
def failingRun : List Bytes × Arguments :=
  (["prog.py", "--verbose", "--version-info", "--codon-path", "/codon"].map Bytes.ofText,
    { source := Bytes.ofText "prog.py", verbose := true, versionInfo := true,
      codonPath := some (Bytes.ofText "/codon") })

end CommandLine

end CompileDriver
