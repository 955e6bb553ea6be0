import CompileDriver.Proofs.Guard.Tapped

/-!
# Stopping a capture

Stopping restores the streams and closes the writing ends, which leaves the
channels with what they carry and without writers.  Joining their readers then
hands out everything.
-/

namespace CompileDriver

open Function (update)

/-- While a capture is being stopped, after the flush that `flushed` comes from: the
numbers refer to these files, the channels of the pending streams carry what the
streams have taken, and nothing more is written. -/
structure Host.Draining (bound : Nat) (channels : Stream → Channel) (flushed : Host)
    (taken : Stream → Bytes) (files : OpenFiles) (pending : List Stream) (host : Host) :
    Prop where
  files : host.opened = files
  lineBuffer : host.lineBuffer = flushed.lineBuffer
  diverted : Host.Diverted bound flushed (fun _ => []) host
  carries : ∀ stream ∈ pending, host.Carries (channels stream) (taken stream)

namespace Host.Draining

variable {bound : Nat} {channels : Stream → Channel} {flushed : Host} {taken : Stream → Bytes}
  {files : OpenFiles} {pending : List Stream} {host : Host}

theorem endCall (draining : Draining bound channels flushed taken files pending host) :
    Draining bound channels flushed taken files pending host.endCall where
  files := (still_endCall host).1.trans draining.files
  lineBuffer := (readersRan_takeTurn (host.note .systemCall)).lineBuffer.trans draining.lineBuffer
  diverted := draining.diverted.endCall
  carries stream member := carries_endCall (draining.carries stream member) draining.diverted.sound

/-- The table can change as long as the sources of the pending streams stay and
their pipes get no new readers and writers. -/
theorem retable (draining : Draining bound channels flushed taken files pending host)
    (table : DescriptorTable)
    (sources : ∀ stream ∈ pending,
      table.file? (channels stream).source = files (channels stream).source)
    (readers : ∀ stream ∈ pending, ∀ number,
      table.file? number = some (.pipeReader (channels stream).pipe) →
        files number = some (.pipeReader (channels stream).pipe))
    (writers : ∀ stream ∈ pending, ∀ number,
      table.file? number = some (.pipeWriter (channels stream).pipe) →
        ∃ other, files other = some (.pipeWriter (channels stream).pipe)) :
    Draining bound channels flushed taken table.file? pending { host with table } where
  files := rfl
  lineBuffer := draining.lineBuffer
  diverted := draining.diverted.retable table
  carries stream member := by
    have same := draining.files
    subst same
    exact (draining.carries stream member).retable (sources stream member) (readers stream member)
      (writers stream member)

/-- A pending stream whose pipe nobody can write to hands out what it has taken. -/
theorem join (draining : Draining bound channels flushed taken files pending host)
    {stream : Stream} (member : stream ∈ pending)
    (closed : ∀ number, files number ≠ some (.pipeWriter (channels stream).pipe))
    (apart : ∀ other ∈ pending, other ≠ stream →
      (channels other).thread ≠ (channels stream).thread) :
    (∃ reader, (host.join (channels stream).thread).1 = some reader ∧
      reader.collected = taken stream ∧ reader.status = .finished) ∧
      Draining bound channels flushed taken files (pending.filter (· ≠ stream))
        (host.join (channels stream).thread).2 := by
  have same := draining.files
  subst same
  have unwritable : host.isWritable (channels stream).pipe = false :=
    host.table.refersTo_eq_false closed
  have sound := draining.diverted.sound
  obtain ⟨found, running⟩ := join_of_closed (draining.carries stream member) sound unwritable
  have ran := readersRan_await host fun host => !host.isReading (channels stream).thread
  refine ⟨found, congrArg DescriptorTable.file? (table_join host _),
    ran.lineBuffer.trans draining.lineBuffer, ?_, ?_⟩
  · have waited := draining.diverted.readersRan ran
    exact ⟨waited.sound, waited.grown, waited.delivered, waited.received, waited.files,
      waited.older, running.trans draining.diverted.stuck⟩
  · intro other left
    obtain ⟨isPending, different⟩ := List.mem_filter.mp left
    have different : other ≠ stream := by simpa using different
    exact carries_join_other (draining.carries other isPending) sound
      (apart other isPending different)

end Host.Draining

theorem Host.Feeding.draining {bound : Nat} {channels : Stream → Channel} {host : Host}
    {taken : Stream → Bytes} (feeding : Feeding bound channels taken host)
    (pending : List Stream) :
    Draining bound channels host taken host.table.file? pending host where
  files := rfl
  lineBuffer := rfl
  diverted := .start feeding.sound
  carries stream _ := feeding.carries stream

namespace Ensures

variable {bound : Nat} {channels : Stream → Channel} {flushed : Host} {taken : Stream → Bytes}
  {files : OpenFiles} {pending : List Stream}

theorem close_draining {number : Nat}
    (apart : ∀ stream ∈ pending, (channels stream).source ≠ number) :
    Ensures (Host.Draining bound channels flushed taken files pending) (SystemCall.close number)
      fun _ => Host.Draining bound channels flushed taken (update files number none) pending := by
  intro host draining
  have closed := host.table.file?_close_eq number
  rw [show host.table.file? = files from draining.files] at closed
  have kept {other : Nat} {file : OpenFile}
      (found : (host.table.close number).file? other = some file) : files other = some file := by
    rw [closed, Function.update_apply] at found
    split at found
    · cases found
    · exact found
  have retabled := draining.retable (host.table.close number)
    (fun stream member => by rw [closed, Function.update_of_ne (apart stream member)])
    (fun stream member other => kept) fun stream member other found => ⟨other, kept found⟩
  rw [closed] at retabled
  exact retabled.endCall

theorem giveBack_draining {copy number : Nat} {file : OpenFile} (saved : files copy = some file)
    (apart : ∀ stream ∈ pending, (channels stream).source ≠ number)
    (old : ∀ stream ∈ pending, file ≠ .pipeReader (channels stream).pipe) :
    Ensures (Host.Draining bound channels flushed taken files pending)
      (SystemCall.giveBack copy number) fun _ =>
        Host.Draining bound channels flushed taken (update files number (some file)) pending := by
  intro host draining
  have same : host.table.file? = files := draining.files
  have found : host.table.file? copy = some file := same ▸ saved
  have pointed := host.table.file?_pointTo_eq found number
  rw [same] at pointed
  have retabled := draining.retable (host.table.pointTo copy number)
    (fun stream member => by rw [pointed, Function.update_of_ne (apart stream member)])
    (fun stream member other known => ?_) fun stream member other known => ?_
  · rw [pointed] at retabled
    rw [SystemCall.giveBack_saved found number]
    exact retabled.endCall
  · rw [pointed, Function.update_apply] at known
    split at known
    · exact absurd (Option.some.inj known) (old stream member)
    · exact known
  · rw [pointed, Function.update_apply] at known
    split at known
    · exact ⟨copy, saved.trans known⟩
    · exact ⟨other, known⟩

/-- Restoring standard error, which holds nothing back. -/
theorem restore_draining {copy : Nat} {file : OpenFile} (saved : files copy = some file)
    (apart : ∀ stream ∈ pending, (channels stream).source ≠ Stream.stderr.number)
    (notCopy : ∀ stream ∈ pending, (channels stream).source ≠ copy)
    (old : ∀ stream ∈ pending, file ≠ .pipeReader (channels stream).pipe) :
    Ensures (Host.Draining bound channels flushed taken files pending)
      (Scope.restore { stream := .stderr, saved := some copy }) fun _ =>
        Host.Draining bound channels flushed taken
          (update (update files Stream.stderr.number (some file)) copy none) pending :=
  (giveBack_draining saved apart old).discarded.bind fun _ =>
    (close_draining notCopy).bind fun _ => .value fun _ draining => draining

/-- The reader of a tap, when there is one, hands out what the stream has taken. -/
theorem joinTap_draining {stream : Stream}
    (closed : ∀ number, files number ≠ some (.pipeWriter (channels stream).pipe))
    (apart : stream ∈ pending → ∀ other ∈ pending, other ≠ stream →
      (channels other).thread ≠ (channels stream).thread) (tap : Tap)
    (thread : (stream ∈ pending ∧ tap.thread = some (channels stream).thread) ∨
      (stream ∉ pending ∧ tap.thread = none ∧ taken stream = [])) :
    Ensures (Host.Draining bound channels flushed taken files pending) (Capture.joinTap tap)
      fun joined host => joined = (taken stream, none) ∧
        Host.Draining bound channels flushed taken files (pending.filter (· ≠ stream)) host := by
  intro host draining
  rcases thread with ⟨member, thread⟩ | ⟨notMember, thread, nothing⟩
  · obtain ⟨⟨reader, found, collected, finished⟩, left⟩ :=
      draining.join member closed (apart member)
    have joined : Capture.joinTap tap host =
        ((taken stream, none), (host.join (channels stream).thread).2) := by
      simp only [Capture.joinTap, thread, SystemCall.joinReader, Action.bind_apply,
        Action.get_apply, Action.set_apply, Action.pure_apply, found, finished, collected]
    rw [joined]
    exact ⟨rfl, left⟩
  · have joined : Capture.joinTap tap host = (([], none), host) := by
      simp only [Capture.joinTap, thread, Action.pure_apply]
    rw [joined, nothing]
    refine ⟨rfl, draining.files, draining.lineBuffer, draining.diverted, fun other left => ?_⟩
    exact draining.carries other (List.mem_of_mem_filter left)

end Ensures

namespace Wiring.InPlace

variable {wiring : Wiring} {pipes : Stream → Nat} {files : PerStream OpenFile}
  {table : DescriptorTable}

/-- The number of a source is neither that of a stream nor that of a writing end
nor that of a copy. -/
theorem source_ne (inPlace : wiring.InPlace pipes files table) (stream other : Stream) :
    wiring.sources.get stream ≠ other.number ∧
      wiring.sources.get stream ≠ wiring.writers.get other ∧
        wiring.sources.get stream ≠ wiring.copies.get other := by
  have source := (inPlace.readers stream _).mpr rfl
  refine ⟨fun same => ?_, fun same => ?_, fun same => ?_⟩
  · rw [same, (inPlace.writers other _).mpr (.inl rfl)] at source
    cases source
  · rw [same, (inPlace.writers other _).mpr (.inr rfl)] at source
    cases source
  · rw [same, inPlace.copies other] at source
    exact (inPlace.old other stream).1 (Option.some.inj source)

/-- When both streams refer to their old files again and the copies and the writing ends are
closed, no number is left for the writing end of a pipe. -/
theorem writer_closed (inPlace : wiring.InPlace pipes files table) (stream : Stream)
    (number : Nat) :
    update (update (update (update (update (update table.file?
      Stream.stdout.number (some (files.get .stdout))) wiring.copies.stdout none)
      Stream.stderr.number (some (files.get .stderr))) wiring.copies.stderr none)
      wiring.writers.stdout none) wiring.writers.stderr none number ≠
        some (.pipeWriter (pipes stream)) := by
  have writer := inPlace.writers stream number
  have notOld (other : Stream) := (inPlace.old other stream).2
  simp only [Function.update_apply]
  cases stream <;> grind [PerStream.get]

end Wiring.InPlace

/-- What is left of stopping a capture once standard output has been flushed. -/
def Capture.release (capture : Capture) (wiring : Wiring) (threads : PerStream (Option Nat)) :
    Action Capture := do
  let taps := wiring.taps threads
  discard (SystemCall.giveBack wiring.copies.stdout Stream.stdout.number)
  SystemCall.close wiring.copies.stdout
  discard taps.stderr.scope.restore
  SystemCall.close wiring.writers.stdout
  SystemCall.close wiring.writers.stderr
  let (stdout, stdoutEnd) ← joinTap taps.stdout
  let (stderr, stderrEnd) ← joinTap taps.stderr
  SystemCall.close wiring.sources.stdout
  SystemCall.close wiring.sources.stderr
  reportEarlyEnd .stdout stdoutEnd
  reportEarlyEnd .stderr stderrEnd
  return { capture with
    captured :=
      { stdout := capture.captured.stdout ++ stdout
        stderr := capture.captured.stderr ++ stderr }
    taps := none }

/-- Restoring a scope flushes its stream first. -/
theorem Scope.restore_bind {α : Type} (stream : Stream) (copy : Nat) (next : Unit → Action α) :
    discard (Scope.restore { stream, saved := some copy }) >>= next =
      (do stream.flush
          discard (SystemCall.giveBack copy stream.number)
          SystemCall.close copy
          next ()) :=
  rfl

theorem Capture.stop_apply {capture : Capture} {wiring : Wiring} {threads : PerStream (Option Nat)}
    (active : capture.taps = some (wiring.taps threads)) (host : Host) :
    capture.stop host =
      capture.release wiring threads
        (Stream.stdout.flush
          (askToStop (wiring.taps threads).stderr
            (askToStop (wiring.taps threads).stdout host).2).2).2 := by
  have unfolded : capture.stop =
      (do askToStop (wiring.taps threads).stdout
          askToStop (wiring.taps threads).stderr
          Stream.stdout.flush
          capture.release wiring threads) := by
    unfold Capture.stop Capture.release
    rw [active]
    exact bind_congr fun _ => bind_congr fun _ => Scope.restore_bind .stdout wiring.copies.stdout _
  rw [unfolded]
  simp only [Action.bind_apply]

/-- A capture that has been stopped after a flush holds what it held before and what
the streams had taken by then. -/
structure Capture.Released (bound : Nat) (flushed : Host) (taken : Stream → Bytes)
    (before after : Capture) (host : Host) : Prop where
  inactive : after.taps = none
  captured : ∀ stream, after.captured.get stream = before.captured.get stream ++ taken stream
  lineBuffer : host.lineBuffer = flushed.lineBuffer
  diverted : Host.Diverted bound flushed (fun _ => []) host

namespace Ensures

variable {wiring : Wiring} {pipes : Stream → Nat} {files : PerStream OpenFile} {bound : Nat}
  {readers : PerStream Nat} {threads : PerStream (Option Nat)} {flushed : Host}
  {table : DescriptorTable} {taken : Stream → Bytes} {pending : List Stream}

/-- Releasing a capture takes everything that the streams have taken.  A stream whose
reader could not be started has taken nothing. -/
theorem release (capture : Capture) (inPlace : wiring.InPlace pipes files table)
    (apart : wiring.Apart)
    (separate : Stream.stdout ∈ pending → .stderr ∈ pending → readers.stdout ≠ readers.stderr)
    (started : ∀ stream, (stream ∈ pending ∧ threads.get stream = some (readers.get stream)) ∨
      (stream ∉ pending ∧ threads.get stream = none ∧ taken stream = [])) :
    Ensures
      (Host.Draining bound (wiring.channels pipes readers) flushed taken table.file? pending)
      (capture.release wiring threads) (Capture.Released bound flushed taken capture) := by
  have saved := inPlace.copies
  have old (stream : Stream) : ∀ other ∈ pending,
      files.get stream ≠ .pipeReader (wiring.channels pipes readers other).pipe :=
    fun other _ => (inPlace.old stream other).1
  unfold Capture.release
  refine (giveBack_draining (saved .stdout) (fun stream _ => (inPlace.source_ne stream .stdout).1)
    (old .stdout)).discarded.bind fun _ => ?_
  refine (close_draining fun stream _ => (inPlace.source_ne stream .stdout).2.2).bind fun _ => ?_
  have stderrSaved : update (update table.file? Stream.stdout.number
      (some (files.get .stdout))) wiring.copies.stdout none wiring.copies.stderr =
        some (files.get .stderr) := by
    have different : wiring.copies.stderr ≠ Stream.stdout.number := apart.streams .stderr .stdout
    rw [Function.update_of_ne apart.copies.symm, Function.update_of_ne different]
    exact saved .stderr
  refine (restore_draining stderrSaved (fun stream _ => (inPlace.source_ne stream .stderr).1)
    (fun stream _ => (inPlace.source_ne stream .stderr).2.2) (old .stderr)).discarded.bind
    fun _ => ?_
  refine (close_draining fun stream _ => (inPlace.source_ne stream .stdout).2.1).bind fun _ => ?_
  refine (close_draining fun stream _ => (inPlace.source_ne stream .stderr).2.1).bind fun _ => ?_
  have stdoutApart : .stdout ∈ pending → ∀ other ∈ pending, other ≠ .stdout →
      (wiring.channels pipes readers other).thread ≠
        (wiring.channels pipes readers .stdout).thread := by
    rintro member (_ | _) otherMember different
    · exact absurd rfl different
    · exact (separate member otherMember).symm
  let taps := wiring.taps threads
  refine (joinTap_draining (inPlace.writer_closed .stdout) stdoutApart taps.stdout
    (started .stdout)).bind fun first => ?_
  rintro host ⟨rfl, draining⟩
  refine (joinTap_draining (inPlace.writer_closed .stderr) ?_ taps.stderr ?_).bind
    (fun second => ?_) host draining
  · intro member other otherMember different
    cases other with
    | stdout => simp at otherMember
    | stderr => exact absurd rfl different
  · rcases started .stderr with ⟨member, thread⟩ | ⟨notMember, thread, nothing⟩
    · exact .inl ⟨by simpa using member, thread⟩
    · exact .inr ⟨by simp [notMember], thread, nothing⟩
  · rintro host ⟨rfl, draining⟩
    have none (stream : Stream) :
        stream ∉ (pending.filter (· ≠ Stream.stdout)).filter (· ≠ Stream.stderr) := by
      cases stream <;> simp
    refine (close_draining fun stream member => absurd member (none stream)).bind (fun _ => ?_)
      host draining
    refine (close_draining fun stream member => absurd member (none stream)).bind fun _ => ?_
    refine fun host draining => ⟨rfl, fun stream => ?_, draining.lineBuffer, draining.diverted⟩
    cases stream <;> rfl

end Ensures

end CompileDriver
