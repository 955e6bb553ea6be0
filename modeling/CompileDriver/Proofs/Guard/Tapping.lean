import CompileDriver.Proofs.Guard.CaptureExact
import CompileDriver.Proofs.Host.Deeds

/-!
# The ledger of an active capture

While a capture is active hosts are a sink whose bytes go to the channels of the
capture, and nothing passes to the original targets of the streams.  When the capture
is stopped it holds all that was written in the meantime, also what was still in the
line buffer.
-/

namespace CompileDriver

/-- How an active capture is connected: the numbers that it has taken, the pipe and the
thread of each stream, and the files that the streams referred to before. -/
structure Plumbing where
  /-- The pipes below this one are older. -/
  bound : Nat
  wiring : Wiring
  pipes : Stream → Nat
  threads : PerStream Nat
  files : PerStream OpenFile

namespace Plumbing

/-- The channels of the streams. -/
def channels (plumbing : Plumbing) : Stream → Channel :=
  plumbing.wiring.channels plumbing.pipes plumbing.threads

/-- The taps of the capture. -/
def taps (plumbing : Plumbing) : PerStream Tap :=
  plumbing.wiring.taps (plumbing.threads.map some)

end Plumbing

/-- The plumbing of a capture that was started at a stage. -/
def Stage.plumbing (stage : Stage) (files : PerStream OpenFile) (threads : PerStream Nat) :
    Plumbing :=
  { bound := stage.pipes
    wiring := stage.wiring files
    pipes := stage.pipeOf
    threads
    files }

namespace Host

/-- The channels of the plumbing are all that the streams have written to since
`started`: nothing has passed to the files that they referred to before. -/
structure Tapping (plumbing : Plumbing) (started : Host) (taken : Stream → Bytes) (host : Host) :
    Prop where
  feeding : Feeding plumbing.bound plumbing.channels taken host
  inPlace : plumbing.wiring.InPlace plumbing.pipes plumbing.files host.table
  grown : started.journal <:+ host.journal
  passed : ∀ stream : Stream,
    host.passedSince started stream.number (plumbing.files.get stream) = []

namespace Tapping

variable {plumbing : Plumbing} {started host : Host} {taken : Stream → Bytes}

/-- A stream does not refer to its original target. -/
theorem elsewhere (tapping : Tapping plumbing started taken host) (stream : Stream) :
    host.table.file? stream.number ≠ some (plumbing.files.get stream) := by
  rw [tapping.feeding.file?_stream]
  intro same
  exact (tapping.inPlace.old stream stream).2 (Option.some.inj same).symm

theorem askToStop (tapping : Tapping plumbing started taken host) (thread : Nat) :
    Tapping plumbing started taken (host.askToStop thread) :=
  ⟨tapping.feeding.askToStop thread, tapping.inPlace, tapping.grown, tapping.passed⟩

theorem playRound (tapping : Tapping plumbing started taken host) {round : Round}
    (sound : ∀ step ∈ round, ∀ error, step.2 ≠ .fail error) :
    Tapping plumbing started taken (host.playRound round) := by
  have ran := readersRan_playRound host round
  constructor
  · exact tapping.feeding.playRound sound
  · exact ran.table ▸ tapping.inPlace
  · exact ran.journal ▸ tapping.grown
  · rw [passedSince_of_journal ran.journal]
    exact tapping.passed

end Tapping

/-- While a capture is active its channels are a sink. -/
theorem tapping_sink (plumbing : Plumbing) (started : Host) :
    Sink Stream.Each (Tapping plumbing started) where
  writes := by
    intro taken host stream bytes _ tapping
    have fed := fed_feed (plumbing.channels stream).pipe host bytes
    obtain ⟨feeding, -⟩ := tapping.feeding.feed stream bytes
    have journal : (feed (plumbing.channels stream).pipe host bytes).journal = host.journal := by
      rw [fed.rest]
    have grown := journal.symm ▸ tapping.grown
    rw [tapping.feeding.write_eq]
    refine ⟨rfl, feeding.note _, ?_, grown.trans (List.suffix_cons _ _), fun other => ?_⟩
    · exact fed.table.symm ▸ tapping.inPlace
    · have elsewhere := fed.table.symm ▸ tapping.elsewhere other
      rw [passedSince_note grown, Moment.passedTo_of_elsewhere elsewhere,
        passedSince_of_journal journal, tapping.passed]
      rfl
  strays _ stray := absurd trivial stray
  buffers lineBuffer tapping :=
    ⟨tapping.feeding.setBuffer lineBuffer, tapping.inPlace, tapping.grown, tapping.passed⟩

end Host

/-- All numbers that a capture has taken and the streams are foreign. -/
structure Plumbing.IsForeign (plumbing : Plumbing) (foreign : Nat → Prop) : Prop where
  streams : ∀ stream : Stream, foreign stream.number
  sources : ∀ stream, foreign (plumbing.wiring.sources.get stream)
  writers : ∀ stream, foreign (plumbing.wiring.writers.get stream)
  copies : ∀ stream, foreign (plumbing.wiring.copies.get stream)

namespace Host

variable {foreign : Nat → Prop} {before after : Host}

theorem Aside.file?_eq (aside : Aside foreign before after) {number : Nat}
    (isForeign : foreign number) : after.table.file? number = before.table.file? number :=
  congrArg (Option.map Descriptor.file) (aside.numbers number isForeign)

/-- What a session does besides keeps the channel of a pipe that it holds no end of. -/
theorem Aside.carries (aside : Aside foreign before after) {channel : Channel} {taken : Bytes}
    (carries : before.Carries channel taken) (isForeign : foreign channel.source)
    (notHeld : ∀ number, ¬ foreign number → ¬ after.IsEnd number channel.pipe)
    (writable : before.isWritable channel.pipe = true) : after.Carries channel taken := by
  constructor
  · exact Nat.lt_of_lt_of_le carries.known aside.grows.1
  · exact (aside.file?_eq isForeign).trans carries.source
  · intro reader member
    rw [aside.readers] at member
    rcases carries.only reader member with same | elsewhere
    · exact .inl same
    · refine .inr fun found => ?_
      by_cases readsForeign : foreign reader.source
      · exact elsewhere ((aside.file?_eq readsForeign).symm.trans found)
      · exact notHeld _ readsForeign (.inl found)
  · obtain ⟨reader, found, sameSource, content, fits⟩ := carries.reader
    have queue := aside.queues channel.source channel.pipe isForeign carries.source
    refine ⟨reader, ?_, sameSource, ?_, ?_⟩
    · rw [reader?, aside.readers]
      exact found
    · rw [queue]
      exact content
    · -- the pipe can be written to, so that its reader goes on
      rcases fits with reading | ⟨-, -, closed⟩
      · exact .inl reading
      · rw [writable] at closed
        cases closed

/-- A session to which the numbers of a capture are foreign does not come to hold an end
of its pipes. -/
theorem Aside.notHeld (aside : Aside foreign before after) {plumbing : Plumbing}
    (isForeign : plumbing.IsForeign foreign)
    (inPlace : plumbing.wiring.InPlace plumbing.pipes plumbing.files before.table)
    {stream : Stream} (known : plumbing.pipes stream < before.pipes.length) (number : Nat)
    (notForeign : ¬ foreign number) : ¬ after.IsEnd number (plumbing.pipes stream) := by
  intro isEnd
  rcases aside.pipes number _ notForeign isEnd with ⟨own, ownNumber, reads | writes⟩ | isNew
  · rw [(inPlace.readers stream own).mp reads] at ownNumber
    exact ownNumber (isForeign.sources stream)
  · rcases (inPlace.writers stream own).mp writes with rfl | rfl
    · exact ownNumber (isForeign.streams stream)
    · exact ownNumber (isForeign.writers stream)
  · omega

/-- The wiring of a capture stays in place. -/
theorem Aside.inPlace (aside : Aside foreign before after) {plumbing : Plumbing}
    (isForeign : plumbing.IsForeign foreign)
    (inPlace : plumbing.wiring.InPlace plumbing.pipes plumbing.files before.table)
    (known : ∀ stream, plumbing.pipes stream < before.pipes.length) :
    plumbing.wiring.InPlace plumbing.pipes plumbing.files after.table := by
  have notHeld (stream : Stream) := aside.notHeld isForeign inPlace (known stream)
  constructor
  · intro stream
    rw [aside.numbers _ (isForeign.streams stream)]
    exact inPlace.streams stream
  · intro stream number
    by_cases numberForeign : foreign number
    · rw [aside.file?_eq numberForeign]
      exact inPlace.readers stream number
    · constructor
      · exact fun found => absurd (.inl found) (notHeld stream number numberForeign)
      · rintro rfl
        exact absurd (isForeign.sources stream) numberForeign
  · intro stream number
    by_cases numberForeign : foreign number
    · rw [aside.file?_eq numberForeign]
      exact inPlace.writers stream number
    · constructor
      · exact fun found => absurd (.inr found) (notHeld stream number numberForeign)
      · rintro (rfl | rfl)
        · exact absurd (isForeign.streams stream) numberForeign
        · exact absurd (isForeign.writers stream) numberForeign
  · intro stream
    rw [aside.file?_eq (isForeign.copies stream)]
    exact inPlace.copies stream
  · exact inPlace.old

/-- While a capture is active its channels are a hardy sink for sessions to which its
numbers are foreign. -/
theorem tapping_hardy {plumbing : Plumbing} (isForeign : plumbing.IsForeign foreign)
    (started : Host) : HardySink Stream.Each foreign (Tapping plumbing started) where
  toSink := tapping_sink plumbing started
  turn := by
    intro taken host tapping
    have ran := readersRan_takeTurn host
    have feeding := tapping.feeding
    refine ⟨⟨feeding.separate, ?_, ?_, ?_⟩, ?_, ?_, ?_⟩
    · exact ran.table ▸ feeding.streams
    · exact feeding.sound.later ran.schedule_suffix
    · exact fun stream => carries_takeTurn (feeding.carries stream) feeding.sound
    · exact ran.table ▸ tapping.inPlace
    · exact ran.journal ▸ tapping.grown
    · rw [passedSince_of_journal ran.journal]
      exact tapping.passed
  aside := by
    intro taken before after tapping aside
    have feeding := tapping.feeding
    have known (stream : Stream) : plumbing.pipes stream < before.pipes.length :=
      (feeding.carries stream).known
    have inPlace := aside.inPlace isForeign tapping.inPlace known
    refine ⟨⟨feeding.separate, inPlace.streams, ?_, fun stream => ?_⟩, inPlace, ?_,
      fun stream => ?_⟩
    · exact feeding.sound.later aside.schedule
    · have writable : before.isWritable (plumbing.channels stream).pipe = true :=
        (before.table.refersTo_iff _).mpr ⟨_, feeding.file?_stream stream⟩
      have notHeld := aside.notHeld isForeign tapping.inPlace (known stream)
      exact aside.carries (feeding.carries stream) (isForeign.sources stream) notHeld writable
    · exact tapping.grown.trans aside.mute.grown
    · rw [aside.mute.passedSince tapping.grown]
      exact tapping.passed stream

end Host

namespace Capture

variable {stage : Stage} {files : PerStream OpenFile} {before after : Capture}
  {threads : PerStream Nat} {started host : Host}

/-- Right after the start nothing has been taken. -/
theorem Active.tapping (active : Active stage files before after threads started)
    (clear : stage.Clear files) :
    Host.Tapping (stage.plumbing files threads) started (fun _ => []) started where
  feeding := active.capturing.feeding
  inPlace := active.table.symm ▸ clear.inPlace
  grown := List.suffix_refl _
  passed _ := started.passedSince_self _ _

/-- What stopping an active capture leads to, after a flush of standard output that
passed on what was held back: the capture holds what the streams had taken then. -/
structure Gathered (takes : (Stream → Bytes) → Host → Prop) (bound : Nat)
    (held : Stream → Bytes) (pieces : Stream → List Piece) (before after : Capture)
    (taken : Stream → Bytes) (flushed host : Host) : Prop where
  taking : takes taken flushed
  empty : flushed.lineBuffer = []
  arrives : ∀ stream : Stream, stream.Arrives (held stream) (pieces stream) (taken stream) []
  released : Released bound flushed taken before after host

/-- The host on which an active capture that is stopped has told its readers to stop and has
flushed standard output. -/
def flushing (taps : PerStream Tap) (host : Host) : Host :=
  (Stream.stdout.flush (askToStop taps.stderr (askToStop taps.stdout host).2).2).2

/-- When an active capture is stopped everything is released that the streams have taken up to
the flush. -/
theorem stop_releases {capture : Capture} {plumbing : Plumbing}
    (active : capture.taps = some plumbing.taps) (apart : plumbing.wiring.Apart)
    {taken : Stream → Bytes}
    (tapped : Host.Tapping plumbing started taken (flushing plumbing.taps host)) :
    Released plumbing.bound (flushing plumbing.taps host) taken capture (capture.stop host).1
      (capture.stop host).2 := by
  have threadsApart := tapped.feeding.separate.threads .stdout .stderr (by decide)
  have running (stream : Stream) : stream ∈ [Stream.stdout, .stderr] ∧
      (plumbing.threads.map some).get stream = some (plumbing.threads.get stream) := by
    cases stream <;> simp [PerStream.get, PerStream.map]
  have released := Ensures.release capture tapped.inPlace apart (fun _ _ => threadsApart)
    (fun stream => .inl (running stream)) _ (tapped.feeding.draining [.stdout, .stderr])
  have stops : capture.stop host = capture.release plumbing.wiring (plumbing.threads.map some)
      (flushing plumbing.taps host) := stop_apply active host
  rwa [← stops] at released

theorem heldBack_askToStop (taps : PerStream Tap) (host : Host) :
    (askToStop taps.stderr (askToStop taps.stdout host).2).2.heldBack = host.heldBack :=
  ((IsMute.askToStop taps.stdout host trivial).1.trans
    (IsMute.askToStop taps.stderr _ trivial).1).heldBack

/-- Stopping an active capture gathers what was written. -/
theorem stop_gathers {capture : Capture} {plumbing : Plumbing}
    (active : capture.taps = some plumbing.taps) (apart : plumbing.wiring.Apart)
    {takes : (Stream → Bytes) → Host → Prop} (sink : Sink Stream.Each takes)
    (tapping : ∀ {taken host}, takes taken host → Host.Tapping plumbing started taken host)
    (asked : ∀ {taken host} (thread : Nat), takes taken host →
      takes taken (host.askToStop thread))
    {held : Stream → Bytes} {pieces : Stream → List Piece}
    (ledger : Host.Ledger Stream.Each takes held pieces host) :
    ∃ taken flushed, Gathered takes plumbing.bound held pieces capture (capture.stop host).1 taken
      flushed (capture.stop host).2 := by
  have asks {taken : Stream → Bytes} {host : Host} (tap : Tap) (taking : takes taken host) :
      takes taken (askToStop tap host).2 := by
    rcases tap with ⟨scope, writer, source, _ | thread⟩
    · exact taking
    · exact asked thread taking
  rcases ledger with ⟨early, taking, arrives⟩
  have askedBoth := asks plumbing.taps.stderr (asks plumbing.taps.stdout taking)
  -- the flush of standard output is what passes the rest on
  obtain ⟨⟨taken, flushed, gone⟩, empty⟩ :=
    sink.flush .stdout _ ⟨early, askedBoth, heldBack_askToStop plumbing.taps host ▸ arrives⟩
  have nothing := empty trivial
  refine ⟨taken, _, flushed, nothing, fun stream => ?_,
    stop_releases active apart (tapping flushed)⟩
  have arrived := gone stream trivial
  cases stream with
  | stdout =>
      rwa [nothing] at arrived
  | stderr => exact arrived

/-- Stopping an active capture adds what the streams have taken and what is still held
back. -/
theorem stop_collects {capture : Capture} {plumbing : Plumbing}
    (active : capture.taps = some plumbing.taps) (apart : plumbing.wiring.Apart)
    {taken : Stream → Bytes} (tapping : Host.Tapping plumbing started taken host)
    (stream : Stream) :
    (capture.stop host).1.captured.get stream =
      capture.captured.get stream ++ (taken stream ++ host.heldBack stream) := by
  have asks {host : Host} (tap : Tap) (tapping : Host.Tapping plumbing started taken host) :
      Host.Tapping plumbing started taken (askToStop tap host).2 := by
    rcases tap with ⟨scope, writer, source, _ | thread⟩
    · exact tapping
    · exact tapping.askToStop thread
  have askedBoth := asks plumbing.taps.stderr (asks plumbing.taps.stdout tapping)
  obtain ⟨-, flushed, -⟩ :=
    (Host.tapping_sink plumbing started).flushLines trivial _ ⟨askedBoth, rfl⟩
  rw [(stop_releases active apart flushed).captured]
  cases stream with
  | stdout =>
      have kept := congrFun (heldBack_askToStop plumbing.taps host) .stdout
      rw [Stream.only_self]
      exact congrArg (fun held => capture.captured.get .stdout ++ (taken .stdout ++ held)) kept
  | stderr => rfl

end Capture

end CompileDriver
