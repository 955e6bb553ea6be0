import CompileDriver.Proofs.Guard.Capturing
import CompileDriver.Proofs.Guard.Stage

/-!
# The stage that an active capture has reached

The final stage of starting a capture: the streams point at the writing ends of two
new pipes, whose reading ends nobody else has, and the copies of their saved
descriptors refer to the files that the streams referred to before.
-/

namespace CompileDriver

namespace Stage

variable {stage : Stage}

/-- With the pipes for both streams. -/
def piped (stage : Stage) : Stage :=
  stage.pipe.pipe

/-- With the copies of what the streams refer to. -/
def saved (stage : Stage) (files : PerStream OpenFile) : Stage :=
  ((stage.piped.flush .stdout).copy files.stdout).copy files.stderr

/-- The numbers that a capture takes. -/
def wiring (stage : Stage) (files : PerStream OpenFile) : Wiring where
  sources := { stdout := stage.pipeEnds.1, stderr := stage.pipe.pipeEnds.1 }
  writers := { stdout := stage.pipeEnds.2, stderr := stage.pipe.pipeEnds.2 }
  copies :=
    { stdout := stage.piped.table.lowestFree
      stderr := (stage.piped.copy files.stdout).table.lowestFree }

/-- With the streams pointing at the writing ends of the pipes. -/
def tapped (stage : Stage) (files : PerStream OpenFile) : Stage :=
  ((stage.saved files).redirect (stage.wiring files).writers.stdout Stream.stdout.number).redirect
    (stage.wiring files).writers.stderr Stream.stderr.number

theorem file?_copy (stage : Stage) (file : OpenFile) :
    (stage.copy file).table.file? =
      Function.update stage.table.file? stage.table.lowestFree (some file) :=
  stage.table.file?_occupy_eq ⟨file, false⟩

theorem file?_redirect {source : Nat} {file : OpenFile}
    (found : stage.table.file? source = some file) (target : Nat) :
    (stage.redirect source target).table.file? =
      Function.update stage.table.file? target (some file) :=
  stage.table.file?_pointTo_eq found target

theorem get?_redirect_self {source target : Nat} {file : OpenFile}
    (found : stage.table.file? source = some file) (different : source ≠ target) :
    (stage.redirect source target).table.get? target = some ⟨file, true⟩ :=
  stage.table.get?_pointTo_self found different

theorem get?_redirect_of_ne {source target number : Nat} {file : OpenFile}
    (found : stage.table.file? source = some file) (different : number ≠ target) :
    (stage.redirect source target).table.get? number = stage.table.get? number :=
  stage.table.get?_pointTo_of_ne found different

/-- The pipe of a stream. -/
def pipeOf (stage : Stage) : Stream → Nat
  | .stdout => stage.pipes
  | .stderr => stage.pipes + 1

/-- What the descriptors look like before a capture is started. -/
structure Clear (stage : Stage) (files : PerStream OpenFile) : Prop where
  streams : ∀ stream : Stream, stage.table.file? stream.number = some (files.get stream)
  readers : ∀ number pipe, stage.table.file? number = some (.pipeReader pipe) →
    pipe < stage.pipes
  writers : ∀ number pipe, stage.table.file? number = some (.pipeWriter pipe) →
    pipe < stage.pipes

/-- No descriptor refers to an end of the next pipes. -/
structure Fresh (stage : Stage) : Prop where
  readers : ∀ number pipe, stage.table.file? number = some (.pipeReader pipe) →
    pipe < stage.pipes
  writers : ∀ number pipe, stage.table.file? number = some (.pipeWriter pipe) →
    pipe < stage.pipes

/-- What the streams refer to once there are the pipes.  The number of a stream that was
closed may have been taken by an end of a pipe. -/
structure Found (stage : Stage) (files : PerStream OpenFile) : Prop where
  streams : ∀ stream : Stream, stage.piped.table.file? stream.number = some (files.get stream)

/-- The reading end of the pipe of each stream. -/
def starts (stage : Stage) : PerStream OpenFile :=
  { stdout := .pipeReader stage.pipes, stderr := .pipeReader (stage.pipes + 1) }

/-- The writing end of the pipe of each stream. -/
def ends (stage : Stage) : PerStream OpenFile :=
  { stdout := .pipeWriter stage.pipes, stderr := .pipeWriter (stage.pipes + 1) }

theorem file?_piped (stage : Stage) :
    stage.piped.table.file? =
      (OpenFiles.withPipe stage.table.file? stage.pipeEnds (.pipeReader stage.pipes)
        (.pipeWriter stage.pipes)).withPipe stage.pipe.pipeEnds (.pipeReader (stage.pipes + 1))
          (.pipeWriter (stage.pipes + 1)) := by
  rw [pipeEnds, ← stage.table.file?_withPipe_eq stage.pipes]
  exact stage.pipe.table.file?_withPipe_eq (stage.pipes + 1)

theorem newPipes (stage : Stage) :
    NewPipe stage.table.file? stage.pipeEnds ∧
      NewPipe
        (OpenFiles.withPipe stage.table.file? stage.pipeEnds (.pipeReader stage.pipes)
          (.pipeWriter stage.pipes)) stage.pipe.pipeEnds := by
  refine ⟨stage.table.newPipe stage.pipes, ?_⟩
  rw [pipeEnds, ← stage.table.file?_withPipe_eq stage.pipes]
  exact stage.pipe.table.newPipe (stage.pipes + 1)

theorem adds_pipes (stage : Stage) (files : PerStream OpenFile) :
    Wiring.Piped (stage.wiring files).sources (stage.wiring files).writers stage.starts stage.ends
      stage.table.file? stage.piped.table.file? := by
  rw [stage.file?_piped]
  exact Wiring.twoPipes stage.newPipes.1 _ _ stage.newPipes.2 _ _

theorem Clear.fresh {files : PerStream OpenFile} (clear : stage.Clear files) : stage.Fresh :=
  ⟨clear.readers, clear.writers⟩

/-- The pipes take the numbers of no stream that is open. -/
theorem Clear.found {files : PerStream OpenFile} (clear : stage.Clear files) :
    stage.Found files where
  streams stream := by
    have found := clear.streams stream
    have pipes := stage.adds_pipes files
    rw [← found]
    refine pipes.others _ (fun other same => ?_) fun other same => ?_
    · rw [same, (pipes.isFree other).1] at found
      cases found
    · rw [same, (pipes.isFree other).2] at found
      cases found

namespace Fresh

/-- Exactly the source of a stream refers to the reading end of its pipe. -/
theorem piped_reader (fresh : stage.Fresh) (files : PerStream OpenFile)
    (stream : Stream) (number : Nat) :
    stage.piped.table.file? number = some (.pipeReader (stage.pipeOf stream)) ↔
      number = (stage.wiring files).sources.get stream := by
  have old := fresh.readers number
  obtain ⟨first, second⟩ := stage.newPipes
  obtain ⟨larger, readerFree, writerFree, -⟩ := first
  obtain ⟨nextLarger, nextReaderFree, nextWriterFree, -⟩ := second
  rw [stage.file?_piped]
  simp only [OpenFiles.withPipe, Function.update_apply, wiring] at *
  cases stream <;> grind [pipeOf, PerStream.get]

theorem piped_writer (fresh : stage.Fresh) (files : PerStream OpenFile)
    (stream : Stream) (number : Nat) :
    stage.piped.table.file? number = some (.pipeWriter (stage.pipeOf stream)) ↔
      number = (stage.wiring files).writers.get stream := by
  have old := fresh.writers number
  obtain ⟨first, second⟩ := stage.newPipes
  obtain ⟨larger, readerFree, writerFree, -⟩ := first
  obtain ⟨nextLarger, nextReaderFree, nextWriterFree, -⟩ := second
  rw [stage.file?_piped]
  simp only [OpenFiles.withPipe, Function.update_apply, wiring] at *
  cases stream <;> grind [pipeOf, PerStream.get]

end Fresh

namespace Found

variable {files : PerStream OpenFile}

theorem saves (found : stage.Found files) :
    Saves stage.piped.table.file? (stage.wiring files).copies files := by
  have first := stage.piped.table.file?_lowestFree
  have second := (stage.piped.copy files.stdout).table.file?_lowestFree
  rw [file?_copy, Function.update_apply] at second
  have apart : stage.piped.table.lowestFree ≠ (stage.piped.copy files.stdout).table.lowestFree := by
    intro same
    rw [if_pos same.symm] at second
    cases second
  refine ⟨found.streams, fun stream => ?_, apart⟩
  cases stream with
  | stdout => exact first
  | stderr =>
      rw [if_neg apart.symm] at second
      exact second

theorem file?_saved (stage : Stage) (files : PerStream OpenFile) :
    (stage.saved files).table.file? =
      Saves.copied stage.piped.table.file? (stage.wiring files).copies files := by
  rw [saved, file?_copy, file?_copy]
  rfl

theorem saved_writer (found : stage.Found files) (stream : Stream) :
    (stage.saved files).table.file? ((stage.wiring files).writers.get stream) =
      some (stage.ends.get stream) := by
  have written := (stage.adds_pipes files).writing stream
  rw [file?_saved, found.saves.copied_of_open (by simp [written]), written]

theorem file?_redirected (found : stage.Found files) :
    ((stage.saved files).redirect (stage.wiring files).writers.stdout
      Stream.stdout.number).table.file? =
        Function.update (Saves.copied stage.piped.table.file? (stage.wiring files).copies files)
          Stream.stdout.number (some stage.ends.stdout) := by
  rw [← file?_saved]
  exact file?_redirect (found.saved_writer .stdout) Stream.stdout.number

theorem redirected_writer (found : stage.Found files) :
    ((stage.saved files).redirect (stage.wiring files).writers.stdout
      Stream.stdout.number).table.file? (stage.wiring files).writers.stderr =
        some stage.ends.stderr := by
  rw [found.file?_redirected, Function.update_of_ne (stage.adds_pipes files).apart, ← file?_saved]
  exact found.saved_writer .stderr

theorem file?_tapped (found : stage.Found files) :
    (stage.tapped files).table.file? =
      Saves.diverted stage.piped.table.file? (stage.wiring files).copies files stage.ends := by
  rw [tapped, file?_redirect found.redirected_writer, found.file?_redirected]
  rfl

theorem differs (found : stage.Found files) :
    Saves.Differs stage.piped.table.file? (stage.wiring files).copies files
      (stage.tapped files).table.file? := by
  have saves := found.saves
  rw [found.file?_tapped]
  exact (saves.differs_copied.update saves .stdout _).update saves .stderr _

theorem connects (found : stage.Found files) :
    (stage.wiring files).Connects stage.table.file? (stage.tapped files).table.file? := by
  rw [found.file?_tapped]
  exact Wiring.connects_of_saves (stage.adds_pipes files) found.saves

end Found

end Stage

namespace Wiring

/-- The channels of the streams. -/
def channels (wiring : Wiring) (pipes : Stream → Nat) (threads : PerStream Nat)
    (stream : Stream) : Channel :=
  { pipe := pipes stream
    thread := threads.get stream
    source := wiring.sources.get stream }

/-- The scopes of both streams. -/
def scopes (wiring : Wiring) : PerStream Scope :=
  { stdout := { stream := .stdout, saved := some wiring.copies.stdout }
    stderr := { stream := .stderr, saved := some wiring.copies.stderr } }

end Wiring

/-- The wiring of an active capture is in place: the streams write to the pipes
and are inherited, a source is the only number for the reading end of its pipe,
and a copy refers to the file that its stream had before. -/
structure Wiring.InPlace (wiring : Wiring) (pipes : Stream → Nat) (files : PerStream OpenFile)
    (table : DescriptorTable) : Prop where
  streams : ∀ stream : Stream, table.get? stream.number = some ⟨.pipeWriter (pipes stream), true⟩
  readers : ∀ stream number, table.file? number = some (.pipeReader (pipes stream)) ↔
    number = wiring.sources.get stream
  writers : ∀ stream number, table.file? number = some (.pipeWriter (pipes stream)) ↔
    number = stream.number ∨ number = wiring.writers.get stream
  copies : ∀ stream, table.file? (wiring.copies.get stream) = some (files.get stream)
  old : ∀ stream other, files.get stream ≠ .pipeReader (pipes other) ∧
    files.get stream ≠ .pipeWriter (pipes other)

namespace Stage.Found

variable {stage : Stage} {files : PerStream OpenFile}

/-- A number is a stream, or the copy of one, or it is as it was with the pipes
only. -/
theorem tapped_cases (found : stage.Found files) (number : Nat) :
    (∃ stream : Stream, number = stream.number ∧
        (stage.tapped files).table.file? number = some (.pipeWriter (stage.pipeOf stream))) ∨
      (∃ stream, number = (stage.wiring files).copies.get stream ∧
        (stage.tapped files).table.file? number = some (files.get stream)) ∨
      (stage.tapped files).table.file? number = stage.piped.table.file? number := by
  have differs := found.differs
  by_cases isCopy : ∃ stream, number = (stage.wiring files).copies.get stream
  · obtain ⟨stream, rfl⟩ := isCopy
    exact .inr (.inl ⟨stream, rfl, differs.kept stream⟩)
  · push Not at isCopy
    by_cases isStream : ∃ stream : Stream, number = stream.number
    · obtain ⟨stream, rfl⟩ := isStream
      refine .inl ⟨stream, rfl, ?_⟩
      rw [found.file?_tapped, Saves.diverted]
      cases stream with
      | stdout => rw [Function.update_of_ne (by decide), Function.update_self]; rfl
      | stderr => rw [Function.update_self]; rfl
    · push Not at isStream
      exact .inr (.inr (differs.others number isStream isCopy))

/-- A number keeps an end of a pipe, unless a stream refers to it. -/
theorem tapped_of_piped (found : stage.Found files) {number : Nat} {file : OpenFile}
    (piped : stage.piped.table.file? number = some file)
    (new : ∀ stream, files.get stream ≠ file) :
    (stage.tapped files).table.file? number = some file := by
  rcases found.tapped_cases number with ⟨stream, rfl, -⟩ | ⟨stream, rfl, -⟩ | same
  · rw [found.streams stream] at piped
    exact absurd (Option.some.inj piped) (new stream)
  · rw [found.saves.isFree stream] at piped
    cases piped
  · rw [same, piped]

variable {stream : Stream} (found : stage.Found files) (fresh : stage.Fresh)
  (notReader : ∀ other, files.get other ≠ .pipeReader (stage.pipeOf stream))
  (notWriter : ∀ other, files.get other ≠ .pipeWriter (stage.pipeOf stream))
include found fresh

include notReader in
/-- The source of a stream is the only number for the reading end of its pipe, unless
that took the number of a stream. -/
theorem tapped_reader (number : Nat) :
    (stage.tapped files).table.file? number = some (.pipeReader (stage.pipeOf stream)) ↔
      number = (stage.wiring files).sources.get stream := by
  constructor
  · intro isReader
    rcases found.tapped_cases number with ⟨other, -, known⟩ | ⟨other, -, known⟩ | same
    · rw [known] at isReader
      cases isReader
    · rw [known] at isReader
      exact absurd (Option.some.inj isReader) (notReader other)
    · exact (fresh.piped_reader files stream number).mp (same ▸ isReader)
  · intro same
    exact found.tapped_of_piped ((fresh.piped_reader files stream number).mpr same) notReader

include notWriter

/-- The stream points at the writing end of its pipe, and is inherited. -/
theorem tapped_stream : (stage.tapped files).table.get? stream.number =
    some ⟨.pipeWriter (stage.pipeOf stream), true⟩ := by
  have apart : (stage.wiring files).writers.get stream ≠ stream.number := by
    intro same
    have original := found.streams stream
    rw [(fresh.piped_writer files stream stream.number).mpr same.symm] at original
    exact notWriter stream (Option.some.inj original).symm
  cases stream with
  | stdout =>
      rw [tapped, get?_redirect_of_ne found.redirected_writer (by decide)]
      exact get?_redirect_self (found.saved_writer .stdout) apart
  | stderr =>
      rw [tapped]
      exact get?_redirect_self found.redirected_writer apart

theorem tapped_writer (number : Nat) :
    (stage.tapped files).table.file? number = some (.pipeWriter (stage.pipeOf stream)) ↔
      number = stream.number ∨ number = (stage.wiring files).writers.get stream := by
  constructor
  · intro isWriter
    rcases found.tapped_cases number with ⟨other, same, known⟩ | ⟨other, -, known⟩ | same
    · rw [known] at isWriter
      cases stream <;> cases other <;> simp_all [pipeOf]
    · rw [known] at isWriter
      exact absurd (Option.some.inj isWriter) (notWriter other)
    · exact .inr ((fresh.piped_writer files stream number).mp (same ▸ isWriter))
  · rintro (rfl | same)
    · exact DescriptorTable.file?_of_get? _ (found.tapped_stream fresh notWriter)
    · exact found.tapped_of_piped ((fresh.piped_writer files stream number).mpr same) notWriter

end Stage.Found

namespace Stage.Clear

variable {stage : Stage} {files : PerStream OpenFile}

theorem old (clear : stage.Clear files) (stream other : Stream) :
    files.get stream ≠ .pipeReader (stage.pipeOf other) ∧
      files.get stream ≠ .pipeWriter (stage.pipeOf other) := by
  have new : stage.pipes ≤ stage.pipeOf other := by cases other <;> simp [pipeOf]
  constructor
  · intro same
    have known := clear.readers _ _ (same ▸ clear.streams stream)
    omega
  · intro same
    have known := clear.writers _ _ (same ▸ clear.streams stream)
    omega

theorem inPlace (clear : stage.Clear files) :
    (stage.wiring files).InPlace stage.pipeOf files (stage.tapped files).table where
  streams stream := clear.found.tapped_stream clear.fresh fun other => (clear.old other stream).2
  readers stream := clear.found.tapped_reader clear.fresh fun other => (clear.old other stream).1
  writers stream := clear.found.tapped_writer clear.fresh fun other => (clear.old other stream).2
  copies := clear.found.differs.kept
  old := clear.old

end Stage.Clear

end CompileDriver
