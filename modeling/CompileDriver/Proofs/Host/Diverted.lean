import CompileDriver.Proofs.Host.Journal
import CompileDriver.Proofs.Host.Opened

/-!
# Writing to new pipes

`Diverted` describes a stretch of a history in which the streams took certain
bytes, all of which went to pipes that are new: neither the initial targets nor
the file tree nor an older pipe got any of them.

The other lemmas follow a channel through the system calls that set up, restore
and give up a redirection: it keeps what it carries as long as its reading end
stays in place and nobody else comes to read from it or to write to it.
-/

namespace CompileDriver

/-- Some items for one stream and none for the other one. -/
def Stream.only {α : Type} (stream : Stream) (items : List α) (other : Stream) : List α :=
  if other = stream then items else []

namespace Stream

variable {α : Type}

@[simp]
theorem only_nil (stream other : Stream) : stream.only ([] : List α) other = [] := by
  simp [only]

@[simp]
theorem only_append (stream : Stream) (items more : List α) (other : Stream) :
    stream.only (items ++ more) other = stream.only items other ++ stream.only more other := by
  by_cases same : other = stream
  · simp [only, same]
  · simp [only, same]

@[simp]
theorem only_self (stream : Stream) (items : List α) : stream.only items stream = items :=
  if_pos rfl

theorem only_of_ne {stream other : Stream} (different : other ≠ stream) (items : List α) :
    stream.only items other = [] :=
  if_neg different

end Stream

/-- What is written to one stream is not delivered to the other one. -/
theorem Moment.deliveredTo_stream (stream other : Stream) (bytes : Bytes)
    (table : DescriptorTable) :
    Moment.deliveredTo other.number { event := .delivered stream.number bytes, table } =
      stream.only bytes other := by
  by_cases same : other = stream
  · simp [same, deliveredTo]
  · have apart : stream.number ≠ other.number :=
      fun equal => same (Stream.number_injective equal).symm
    simp [Stream.only, same, deliveredTo, apart]

namespace Host

/-! ## Channels under system calls -/

variable {host : Host} {channel : Channel} {bytes : Bytes}

theorem carries_endCall (carries : host.Carries channel bytes) (sound : host.NoReadFailures) :
    host.endCall.Carries channel bytes :=
  carries_takeTurn ⟨carries.known, carries.source, carries.only, carries.reader⟩ sound

/-- A channel does not depend on the table beyond the numbers that refer to the
ends of its pipe. -/
theorem Carries.retable (carries : host.Carries channel bytes) {table : DescriptorTable}
    (source : table.file? channel.source = host.table.file? channel.source)
    (readers : ∀ number, table.file? number = some (.pipeReader channel.pipe) →
      host.table.file? number = some (.pipeReader channel.pipe))
    (writers : ∀ number, table.file? number = some (.pipeWriter channel.pipe) →
      ∃ other, host.table.file? other = some (.pipeWriter channel.pipe)) :
    ({ host with table } : Host).Carries channel bytes where
  known := carries.known
  source := source.trans carries.source
  only reader member :=
    (carries.only reader member).imp_right fun elsewhere found => elsewhere (readers _ found)
  reader := by
    obtain ⟨reader, found, sameSource, content, fits⟩ := carries.reader
    refine ⟨reader, found, sameSource, content, fits.imp_right fun ⟨ended, empty, closed⟩ => ?_⟩
    refine ⟨ended, empty, table.refersTo_eq_false fun number written => ?_⟩
    have writable := (host.table.refersTo_iff _).mpr (writers number written)
    rw [isWritable, writable] at closed
    cases closed

theorem reader?_askToStop (host : Host) (thread other : Nat) :
    (host.askToStop thread).reader? other =
      (host.reader? other).map fun reader =>
        if reader.thread = thread then { reader with stopping := true } else reader := by
  have sameTest : ((fun reader : Reader => decide (reader.thread = other)) ∘
      fun reader => if reader.thread = thread then { reader with stopping := true } else reader) =
      fun reader => decide (reader.thread = other) := by
    funext reader
    simp only [Function.comp_apply]
    split <;> rfl
  simp only [reader?, askToStop, List.find?_map, sameTest]

theorem carries_askToStop (carries : host.Carries channel bytes) (thread : Nat) :
    (host.askToStop thread).Carries channel bytes where
  known := carries.known
  source := carries.source
  only reader member := by
    obtain ⟨earlier, present, rfl⟩ := List.mem_map.mp member
    split
    · exact carries.only earlier present
    · exact carries.only earlier present
  reader := by
    obtain ⟨reader, found, rest⟩ := carries.reader
    rw [reader?_askToStop, found]
    refine ⟨_, rfl, ?_⟩
    dsimp only
    split
    · exact rest
    · exact rest

/-- The host with a further reader thread. -/
def withReader (host : Host) (thread source : Nat) : Host :=
  { host with readers := host.readers ++ [{ thread, source }] }

theorem carries_withReader_other (carries : host.Carries channel bytes) (thread : Nat)
    {source : Nat} (elsewhere : host.table.file? source ≠ some (.pipeReader channel.pipe)) :
    (host.withReader thread source).Carries channel bytes where
  known := carries.known
  source := carries.source
  only reader member := by
    rcases List.mem_append.mp member with earlier | new
    · exact carries.only reader earlier
    · rw [List.mem_singleton.mp new]
      exact .inr elsewhere
  reader := by
    obtain ⟨reader, found, rest⟩ := carries.reader
    refine ⟨reader, ?_, rest⟩
    rw [reader?] at found
    rw [reader?, withReader, List.find?_append, found, Option.some_or]

/-- A thread that starts to read from an empty pipe makes it a channel. -/
theorem carries_withReader {pipe thread source : Nat} (known : pipe < host.pipes.length)
    (found : host.table.file? source = some (.pipeReader pipe)) (empty : host.queue pipe = [])
    (unread : ∀ reader ∈ host.readers,
      host.table.file? reader.source ≠ some (.pipeReader pipe))
    (new : ∀ reader ∈ host.readers, reader.thread ≠ thread) :
    (host.withReader thread source).Carries { pipe, thread, source } [] where
  known := known
  source := found
  only reader member := by
    rcases List.mem_append.mp member with earlier | new
    · exact .inr (unread reader earlier)
    · rw [List.mem_singleton.mp new]
      exact .inl rfl
  reader := by
    have notEarlier :
        host.readers.find? (fun reader => decide (reader.thread = thread)) = none := by
      simpa using new
    refine ⟨{ thread, source }, ?_, rfl, ?_, .inl rfl⟩
    · simp [reader?, withReader, notEarlier]
    · exact empty

/-! ## Diverted streams -/

/-- Since `started` the streams have taken what `reached` says, and none of it
went to an initial target, to the file tree or to a pipe below `bound`. -/
structure Diverted (bound : Nat) (started : Host) (reached : Stream → Bytes) (host : Host) :
    Prop where
  sound : host.NoReadFailures
  grown : started.journal <:+ host.journal
  delivered : ∀ stream : Stream, host.deliveredSince started stream.number = reached stream
  received : host.received = started.received
  files : host.files = started.files
  older : ∀ pipe < bound, host.queue pipe <:+ started.queue pipe
  stuck : host.stuck = started.stuck

theorem deliveredSince_note {started : Host} (grown : started.journal <:+ host.journal)
    (event : Event) (number : Nat) :
    (host.note event).deliveredSince started number =
      host.deliveredSince started number ++
        Moment.deliveredTo number { event, table := host.table } := by
  rw [deliveredSince_trans grown (List.suffix_cons _ _)]
  congr 1
  have noted : (host.note event).journal = [{ event, table := host.table }] ++ host.journal := rfl
  simp [deliveredSince, historySince_of_journal noted]

namespace Diverted

variable {bound : Nat} {started after : Host} {reached : Stream → Bytes}

theorem start (sound : started.NoReadFailures) :
    Diverted bound started (fun _ => []) started where
  sound := sound
  grown := List.suffix_refl _
  delivered _ := by simp [deliveredSince, historySince_self]
  received := rfl
  files := rfl
  older _ _ := List.suffix_refl _
  stuck := rfl

theorem readersRan (diverted : Diverted bound started reached host)
    (ran : ReadersRan host after) : Diverted bound started reached after where
  sound := diverted.sound.later ran.schedule_suffix
  grown := ran.journal ▸ diverted.grown
  delivered stream := by
    rw [deliveredSince, historySince, history, ran.journal]
    exact diverted.delivered stream
  received := ran.received.trans diverted.received
  files := ran.files.trans diverted.files
  older pipe below := (ran.queue_suffix pipe).trans (diverted.older pipe below)
  stuck := ran.stuck.trans diverted.stuck

theorem retable (diverted : Diverted bound started reached host) (table : DescriptorTable) :
    Diverted bound started reached { host with table } :=
  ⟨diverted.sound, diverted.grown, diverted.delivered, diverted.received, diverted.files,
    diverted.older, diverted.stuck⟩

theorem endCall (diverted : Diverted bound started reached host) :
    Diverted bound started reached host.endCall := by
  have noted : Diverted bound started reached (host.note .systemCall) :=
    { sound := diverted.sound
      grown := diverted.grown.trans (List.suffix_cons _ _)
      delivered := fun stream => by
        rw [deliveredSince_note diverted.grown, diverted.delivered]
        exact List.append_nil _
      received := diverted.received
      files := diverted.files
      older := diverted.older
      stuck := diverted.stuck }
  exact noted.readersRan (readersRan_takeTurn _)

/-- What a stream takes is noted. -/
theorem note (diverted : Diverted bound started reached host) (stream : Stream) (bytes : Bytes) :
    Diverted bound started (fun other => reached other ++ stream.only bytes other)
      (host.note (.delivered stream.number bytes)) where
  sound := diverted.sound
  grown := diverted.grown.trans (List.suffix_cons _ _)
  delivered other := by
    rw [deliveredSince_note diverted.grown, diverted.delivered, Moment.deliveredTo_stream]
  received := diverted.received
  files := diverted.files
  older := diverted.older
  stuck := diverted.stuck

/-- Feeding a new pipe diverts what is fed. -/
theorem fed (diverted : Diverted bound started reached host) {pipe : Nat} (new : bound ≤ pipe)
    (fed : Fed pipe host after) (running : after.stuck = host.stuck) :
    Diverted bound started reached after where
  sound := diverted.sound.later fed.schedule_suffix
  grown := by
    rw [fed.rest]
    exact diverted.grown
  delivered stream := by
    rw [deliveredSince, historySince, history, fed.rest]
    exact diverted.delivered stream
  received := by
    rw [fed.rest]
    exact diverted.received
  files := by
    rw [fed.rest]
    exact diverted.files
  older pipe below :=
    (fed.queue_suffix pipe (by omega)).trans (diverted.older pipe below)
  stuck := running.trans diverted.stuck

/-- Stretches add up. -/
theorem trans {middle : Host} {more : Stream → Bytes}
    (first : Diverted bound started reached middle) (rest : Diverted bound middle more host) :
    Diverted bound started (fun stream => reached stream ++ more stream) host where
  sound := rest.sound
  grown := first.grown.trans rest.grown
  delivered stream := by
    rw [deliveredSince_trans first.grown rest.grown, first.delivered, rest.delivered]
  received := rest.received.trans first.received
  files := rest.files.trans first.files
  older pipe below := (rest.older pipe below).trans (first.older pipe below)
  stuck := rest.stuck.trans first.stuck

end Diverted

end Host

end CompileDriver
