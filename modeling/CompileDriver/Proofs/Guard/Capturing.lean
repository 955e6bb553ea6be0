import CompileDriver.Guard.Capture
import CompileDriver.Host.Spawn
import CompileDriver.Proofs.Host.Diverted

/-!
# Writing while a capture is active

While a capture is active each stream writes to a channel of its own, and every
write succeeds.  What the process writes to standard output goes through its line
buffer: how much of it reaches the stream, and when, depends on the line buffer
alone.  `Determined` says this of an action, whatever the reader threads do in
between.
-/

namespace CompileDriver

/-- The pipes and the threads of the channels differ, and the pipes are new. -/
structure Separate (bound : Nat) (channels : Stream → Channel) : Prop where
  new : ∀ stream, bound ≤ (channels stream).pipe
  pipes : ∀ stream other, stream ≠ other → (channels stream).pipe ≠ (channels other).pipe
  threads : ∀ stream other, stream ≠ other → (channels stream).thread ≠ (channels other).thread

namespace Host

/-- Each stream writes to a channel of its own, is inherited by programs, and the
channels carry exactly what the streams have taken. -/
structure Feeding (bound : Nat) (channels : Stream → Channel) (taken : Stream → Bytes)
    (host : Host) : Prop where
  separate : Separate bound channels
  streams : ∀ stream : Stream, host.table.get? stream.number =
    some ⟨.pipeWriter (channels stream).pipe, true⟩
  sound : host.NoReadFailures
  carries : ∀ stream, host.Carries (channels stream) (taken stream)

namespace Feeding

variable {bound : Nat} {channels : Stream → Channel} {host : Host} {taken : Stream → Bytes}

theorem file?_stream (feeding : Feeding bound channels taken host) (stream : Stream) :
    host.table.file? stream.number = some (.pipeWriter (channels stream).pipe) :=
  host.table.file?_of_get? (feeding.streams stream)

theorem playRound (feeding : Feeding bound channels taken host) {round : Round}
    (sound : ∀ step ∈ round, ∀ error, step.2 ≠ .fail error) :
    Feeding bound channels taken (host.playRound round) where
  separate := feeding.separate
  streams stream := (readersRan_playRound host round).table ▸ feeding.streams stream
  sound := feeding.sound.later (readersRan_playRound host round).schedule_suffix
  carries stream := carries_playRound (feeding.carries stream) sound

theorem setBuffer (feeding : Feeding bound channels taken host) (lineBuffer : Bytes) :
    Feeding bound channels taken { host with lineBuffer } where
  separate := feeding.separate
  streams := feeding.streams
  sound := feeding.sound
  carries stream :=
    have same := feeding.carries stream
    ⟨same.known, same.source, same.only, same.reader⟩

theorem note (feeding : Feeding bound channels taken host) (event : Event) :
    Feeding bound channels taken (host.note event) where
  separate := feeding.separate
  streams := feeding.streams
  sound := feeding.sound
  carries stream :=
    have same := feeding.carries stream
    ⟨same.known, same.source, same.only, same.reader⟩

theorem askToStop (feeding : Feeding bound channels taken host) (thread : Nat) :
    Feeding bound channels taken (host.askToStop thread) where
  separate := feeding.separate
  streams := feeding.streams
  sound := feeding.sound
  carries stream := carries_askToStop (feeding.carries stream) thread

/-- Writing to a stream feeds the pipe of its channel. -/
theorem write_eq (feeding : Feeding bound channels taken host) (stream : Stream) (bytes : Bytes) :
    SystemCall.write stream.number bytes host =
      (.ok (), (feed (channels stream).pipe host bytes).note (.delivered stream.number bytes)) := by
  have readable : host.table.refersTo (.pipeReader (channels stream).pipe) = true :=
    (host.table.refersTo_iff _).mpr ⟨_, (feeding.carries stream).source⟩
  have delivered : host.deliver (.pipeWriter (channels stream).pipe) bytes =
      (.ok (), feed (channels stream).pipe host bytes) := if_pos readable
  rw [SystemCall.write_open (feeding.file?_stream stream), delivered]

/-- The channel of the stream takes everything, the other one nothing, and the
process is not stuck. -/
theorem feed (feeding : Feeding bound channels taken host) (stream : Stream) (bytes : Bytes) :
    Feeding bound channels (fun other => taken other ++ stream.only bytes other)
        (feed (channels stream).pipe host bytes) ∧
      (Host.feed (channels stream).pipe host bytes).stuck = host.stuck := by
  have writable : host.isWritable (channels stream).pipe = true :=
    (host.table.refersTo_iff _).mpr ⟨_, feeding.file?_stream stream⟩
  have fed := fed_feed (channels stream).pipe host bytes
  obtain ⟨carried, running⟩ := carries_feed (feeding.carries stream) feeding.sound writable bytes
  refine ⟨?_, running⟩
  constructor
  · exact feeding.separate
  · exact fun other => fed.table ▸ feeding.streams other
  · exact feeding.sound.later fed.schedule_suffix
  · intro other
    by_cases same : other = stream
    · subst same
      simpa [Stream.only] using carried
    · have apart := feeding.separate.pipes other stream same
      simpa [Stream.only, same] using
        carries_feed_other apart (feeding.carries other) feeding.sound bytes

end Feeding

/-- The streams have been captured since `started`: they write to channels, which
carry exactly what the streams have taken, and nothing else got any of it. -/
structure Capturing (bound : Nat) (channels : Stream → Channel) (started : Host)
    (reached : Stream → Bytes) (host : Host) : Prop where
  feeding : Feeding bound channels reached host
  table : host.table = started.table
  diverted : Diverted bound started reached host

namespace Capturing

variable {bound : Nat} {channels : Stream → Channel} {started host : Host}
  {reached : Stream → Bytes}

theorem playRound (capturing : Capturing bound channels started reached host) {round : Round}
    (sound : ∀ step ∈ round, ∀ error, step.2 ≠ .fail error) :
    Capturing bound channels started reached (host.playRound round) where
  feeding := capturing.feeding.playRound sound
  table := (readersRan_playRound host round).table.trans capturing.table
  diverted := capturing.diverted.readersRan (readersRan_playRound host round)

theorem setBuffer (capturing : Capturing bound channels started reached host)
    (lineBuffer : Bytes) :
    Capturing bound channels started reached { host with lineBuffer } where
  feeding := capturing.feeding.setBuffer lineBuffer
  table := capturing.table
  diverted := ⟨capturing.diverted.sound, capturing.diverted.grown, capturing.diverted.delivered,
    capturing.diverted.received, capturing.diverted.files, capturing.diverted.older,
    capturing.diverted.stuck⟩

/-- To add nothing is to leave the streams alone. -/
theorem idle (capturing : Capturing bound channels started reached host) :
    Capturing bound channels started (fun stream => reached stream ++ []) host := by
  simpa only [List.append_nil] using capturing

/-- Writing to a captured stream succeeds, and its channel takes everything. -/
theorem write (capturing : Capturing bound channels started reached host) (stream : Stream)
    (bytes : Bytes) :
    (SystemCall.write stream.number bytes host).1 = .ok () ∧
      (SystemCall.write stream.number bytes host).2.lineBuffer = host.lineBuffer ∧
      Capturing bound channels started (fun other => reached other ++ stream.only bytes other)
        (SystemCall.write stream.number bytes host).2 := by
  have fed := fed_feed (channels stream).pipe host bytes
  obtain ⟨feeding, running⟩ := capturing.feeding.feed stream bytes
  have new := capturing.feeding.separate.new stream
  rw [capturing.feeding.write_eq]
  refine ⟨rfl, ?_, feeding.note _, fed.table.trans capturing.table, ?_⟩
  · change (feed (channels stream).pipe host bytes).lineBuffer = host.lineBuffer
    rw [fed.rest]
  · exact (capturing.diverted.fed new fed running).note stream bytes

end Capturing

end Host

/-! ## Determined actions -/

variable {α β : Type}

/-- With a line buffer that holds `buffer`, while a capture is active, the action
yields `value`, adds `added` to the streams and leaves `left` in the line buffer,
whatever the readers do. -/
def Does (buffer : Bytes) (action : Action α) (value : α) (added : Stream → Bytes)
    (left : Bytes) : Prop :=
  ∀ {bound channels started reached host},
    Host.Capturing bound channels started reached host → host.lineBuffer = buffer →
      (action host).1 = value ∧ (action host).2.lineBuffer = left ∧
        Host.Capturing bound channels started (fun stream => reached stream ++ added stream)
          (action host).2

theorem Does.bind {buffer middle left : Bytes} {first : Action α} {next : α → Action β} {value : α}
    {result : β} {added more : Stream → Bytes} (does : Does buffer first value added middle)
    (rest : Does middle (next value) result more left) :
    Does buffer (first >>= next) result (fun stream => added stream ++ more stream) left := by
  intro bound channels started reached host capturing held
  obtain ⟨known, keeps, between⟩ := does capturing held
  obtain ⟨last, leaves, after⟩ := rest between keeps
  rw [Action.bind_apply, known]
  refine ⟨last, leaves, ?_⟩
  simpa only [List.append_assoc] using after

/-- What the action does is determined by what the line buffer holds. -/
def DeterminedFrom (buffer : Bytes) (action : Action α) : Prop :=
  ∃ value added left, Does buffer action value added left

/-- What the action does is determined by the line buffer. -/
def Determined (action : Action α) : Prop :=
  ∀ buffer, DeterminedFrom buffer action

/-- Moves of the readers add nothing. -/
theorem Does.playRound (buffer : Bytes) {round : Round}
    (sound : ∀ step ∈ round, ∀ error, step.2 ≠ .fail error) :
    Does buffer (modify (·.playRound round) : Action PUnit) ⟨⟩ (fun _ => []) buffer := by
  intro bound channels started reached host capturing held
  have kept := (Host.readersRan_playRound host round).lineBuffer
  exact ⟨rfl, kept.trans held, (capturing.playRound sound).idle⟩

namespace DeterminedFrom

variable {buffer : Bytes}

theorem bind {first : Action α} {next : α → Action β} (determined : DeterminedFrom buffer first)
    (rest : ∀ value, Determined (next value)) : DeterminedFrom buffer (first >>= next) := by
  obtain ⟨value, added, middle, does⟩ := determined
  obtain ⟨result, more, left, ends⟩ := rest value middle
  exact ⟨result, _, left, does.bind ends⟩

/-- An action that does the same as another one on hosts with this line
buffer. -/
theorem congr {action other : Action α}
    (same : ∀ host : Host, host.lineBuffer = buffer → action host = other host)
    (determined : DeterminedFrom buffer other) : DeterminedFrom buffer action := by
  obtain ⟨value, added, left, does⟩ := determined
  refine ⟨value, added, left, fun capturing held => ?_⟩
  rw [same _ held]
  exact does capturing held

end DeterminedFrom

namespace Determined

theorem value (value : α) : Determined (pure value : Action α) :=
  fun buffer => ⟨value, fun _ => [], buffer, fun capturing held =>
    ⟨rfl, held, capturing.idle⟩⟩

theorem bind {first : Action α} {next : α → Action β} (determined : Determined first)
    (rest : ∀ value, Determined (next value)) : Determined (first >>= next) :=
  fun buffer => (determined buffer).bind rest

/-- What follows a look at the line buffer may use what it holds. -/
theorem look {next : Host → Action β} (other : Bytes → Action β)
    (same : ∀ host, next host host = other host.lineBuffer host)
    (determined : ∀ buffer, DeterminedFrom buffer (other buffer)) :
    Determined (get >>= next) :=
  fun buffer => .congr (fun host held => held ▸ same host) (determined buffer)

theorem discarded {action : Action α} (determined : Determined action) :
    Determined (discard action : Action PUnit) := by
  intro buffer
  obtain ⟨value, added, left, does⟩ := determined buffer
  exact ⟨⟨⟩, added, left, fun capturing held => ⟨rfl, (does capturing held).2⟩⟩

theorem changeBuffer (change : Bytes → Bytes) :
    Determined
      (modify fun host => { host with lineBuffer := change host.lineBuffer } : Action PUnit) := by
  refine fun buffer => ⟨⟨⟩, fun _ => [], change buffer, fun capturing held => ?_⟩
  exact ⟨rfl, congrArg change held, (capturing.setBuffer _).idle⟩

theorem write (stream : Stream) (bytes : Bytes) :
    Determined (SystemCall.write stream.number bytes) := by
  refine fun buffer => ⟨.ok (), stream.only bytes, buffer, fun capturing held => ?_⟩
  obtain ⟨succeeded, kept, after⟩ := capturing.write stream bytes
  exact ⟨succeeded, kept.trans held, after⟩

theorem writeOut (stream : Stream) (bytes : Bytes) : Determined (stream.writeOut bytes) := by
  refine (write stream bytes).bind fun outcome => ?_
  cases outcome with
  | ok done => exact .value _
  | error error => exact .value _

/-! ## The line buffer -/

theorem flushLines : Determined Stream.flushLines := by
  refine .look
    (fun held =>
      if held = [] then pure true
      else do
        let written ← Stream.writeOut .stdout held
        if written then modify fun host => { host with lineBuffer := [] }
        return written)
    (fun host => rfl) fun held => ?_
  split
  · exact value true held
  · refine (writeOut .stdout held).bind (fun written => ?_) held
    cases written with
    | true => exact (changeBuffer fun _ => []).bind fun _ => .value true
    | false => exact .value false

theorem bufferLine (bytes : Bytes) : Determined (Stream.bufferLine bytes) := by
  have append : Determined
      (do modify fun host => { host with lineBuffer := host.lineBuffer ++ bytes }
          return true) := (changeBuffer (· ++ bytes)).bind fun _ => value true
  have bypass (flushed : Bool) : Determined
      (if !flushed then pure false
        else if lineBufferCapacity ≤ bytes.length then Stream.writeOut .stdout bytes
        else do
          modify fun host => { host with lineBuffer := host.lineBuffer ++ bytes }
          return true) := by
    split
    · exact value false
    · split
      · exact writeOut .stdout bytes
      · exact append
  refine .look
    (fun buffer =>
      let held := buffer.length + bytes.length
      if held < lineBufferCapacity then do
        modify fun host => { host with lineBuffer := host.lineBuffer ++ bytes }
        return true
      else do
        let flushed ← if lineBufferCapacity < held then Stream.flushLines else pure true
        if !flushed then return false
        else if lineBufferCapacity ≤ bytes.length then Stream.writeOut .stdout bytes
        else
          modify fun host => { host with lineBuffer := host.lineBuffer ++ bytes }
          return true)
    (fun host => ?_) fun buffer => ?_
  · dsimp only
    split <;> rfl
  · dsimp only
    split
    · exact append buffer
    · split
      · exact flushLines.bind bypass buffer
      · exact (value true).bind bypass buffer

theorem writeComplete (lines : Bytes) : Determined (Stream.writeComplete lines) := by
  refine .look
    (fun held =>
      if lines = [] then
        if held.getLast? = some Bytes.newline then Stream.flushLines else pure true
      else if held = [] then Stream.writeOut .stdout lines
      else do
        let buffered ← Stream.bufferLine lines
        if buffered then Stream.flushLines else return false)
    (fun host => rfl) fun held => ?_
  split
  · split
    · exact flushLines held
    · exact value true held
  · split
    · exact writeOut .stdout lines held
    · refine (bufferLine lines).bind (fun buffered => ?_) held
      split
      · exact flushLines
      · exact value false

theorem writeLines (bytes : Bytes) : Determined (Stream.writeLines bytes) := by
  refine (writeComplete _).bind fun complete => ?_
  split
  · exact bufferLine _
  · exact value false

theorem writeStream (stream : Stream) (bytes : Bytes) : Determined (stream.write bytes) := by
  cases stream with
  | stdout => exact (writeLines bytes).discarded
  | stderr => exact (writeOut .stderr bytes).discarded

theorem flush (stream : Stream) : Determined stream.flush := by
  cases stream with
  | stdout => exact flushLines.discarded
  | stderr => exact value _

/-- The streams are inherited by programs while they are captured. -/
theorem writeInherited (stream : Stream) (bytes : Bytes) :
    Determined (Spawn.writeInherited stream bytes) := by
  intro buffer
  obtain ⟨value, added, left, does⟩ := (write stream bytes).discarded buffer
  refine ⟨value, added, left, fun {_ _ _ _ host} capturing held => ?_⟩
  have found := capturing.feeding.streams stream
  have writes : Spawn.writeInherited stream bytes host =
      (discard (SystemCall.write stream.number bytes) : Action Unit) host := by
    simp only [Spawn.writeInherited, Action.bind_apply, Action.get_apply, found]
  rw [writes]
  exact does capturing held

end Determined

end CompileDriver
