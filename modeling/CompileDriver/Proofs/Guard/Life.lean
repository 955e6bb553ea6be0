import CompileDriver.Proofs.Guard.StartSteps
import CompileDriver.Proofs.Guard.Tapping

/-!
# The life of a capture

A process uses one capture for as long as it likes: it starts and stops it, also at
the wrong time, asks what has been captured and writes to the streams, while the reader
threads move in between.  `Situation.life` records each use with what it came to.

Between two uses the capture is idle, or it is underway since the last start.  In both
cases it is known where everything is that the process has written so far.
-/

namespace CompileDriver

namespace Capture

/-- One use of a capture, or something else that happens meanwhile. -/
inductive Use
  | start
  | stop
  /-- Ask for the text of a stream. -/
  | read (stream : Stream)
  /-- The process writes to a stream. -/
  | write (stream : Stream) (bytes : Bytes)
  /-- The reader threads move. -/
  | readers (round : Round)
  deriving DecidableEq

namespace Use

/-- Do it.  Only starting can fail. -/
def perform (capture : Capture) : Use → Action (Except CaptureError Unit × Capture)
  | .start => capture.start
  | .stop => do return (.ok (), ← capture.stop)
  | .read stream => do
      discard (capture.text stream)
      return (.ok (), capture)
  | .write stream bytes => do
      stream.write bytes
      return (.ok (), capture)
  | .readers round => do
      modify fun host => host.playRound round
      return (.ok (), capture)

/-- What the process writes to a stream. -/
def written (stream : Stream) : Use → Bytes
  | .write other bytes => other.only bytes stream
  | _ => []

/-- No read fails for good. -/
def IsSound : Use → Prop
  | .readers round => ∀ step ∈ round, ∀ error, step.2 ≠ .fail error
  | _ => True

end Use

/-- A capture and the host that it is used on. -/
structure Situation where
  capture : Capture
  host : Host

/-- A use and what it came to. -/
structure Deed where
  use : Use
  before : Situation
  outcome : Except CaptureError Unit
  after : Situation

namespace Situation

def isActive (now : Situation) : Bool :=
  now.capture.isActive

/-- What has been captured of a stream so far. -/
def bytes (now : Situation) (stream : Stream) : Bytes :=
  (now.capture.bytes stream now.host).1

/-- Use the capture. -/
def deed (now : Situation) (use : Use) : Deed :=
  let ((outcome, capture), host) := use.perform now.capture now.host
  { use, before := now, outcome, after := { capture, host } }

/-- Use the capture time after time. -/
def life (now : Situation) : List Use → List Deed
  | [] => []
  | use :: rest => now.deed use :: (now.deed use).after.life rest

/-- What the uses of a life lead to. -/
def ending (now : Situation) : List Use → Situation
  | [] => now
  | use :: rest => (now.deed use).after.ending rest

end Situation

/-- What was written to a stream while the capture was active, or while it was not. -/
def Deed.writtenWhile (active : Bool) (stream : Stream) (deed : Deed) : Bytes :=
  if deed.before.isActive = active then deed.use.written stream else []

/-- What was written before the deed and is captured all the same: a capture that is started
gets what standard output holds back and cannot flush, once the first reader runs. -/
def Deed.spilt (stream : Stream) (deed : Deed) : Bytes :=
  if deed.use = .start ∧ deed.before.isActive = false then
    match deed.outcome with
    | .ok () => deed.before.host.stage.unflushed stream
    | .error error => error.spills (deed.before.host.stage.unflushed stream)
  else []

/-- What the capture gets by the deed, now or when everything is read. -/
def Deed.caught (stream : Stream) (deed : Deed) : Bytes :=
  deed.spilt stream ++ deed.writtenWhile true stream

/-! ## What is captured only grows -/

theorem bytes_apply (capture : Capture) (stream : Stream) (host : Host) :
    (capture.bytes stream host).1 =
      capture.captured.get stream ++
        (((capture.taps.bind fun taps =>
          (taps.get stream).thread.bind fun thread => host.reader? thread).map
            Reader.collected).getD []) :=
  rfl

theorem captured_prefix (capture : Capture) (stream : Stream) (host : Host) :
    capture.captured.get stream <+: (capture.bytes stream host).1 := by
  rw [bytes_apply]
  exact List.prefix_append _ _

/-- While threads only add to what they have read, captures only grow. -/
theorem bytes_of_collects (capture : Capture) (stream : Stream) {before after : Host}
    (collects : Host.Collects before after) :
    (capture.bytes stream before).1 <+: (capture.bytes stream after).1 := by
  rw [bytes_apply, bytes_apply, List.prefix_append_right_inj]
  cases tapped : capture.taps with
  | none => exact List.prefix_refl _
  | some taps =>
      cases started : (taps.get stream).thread with
      | none => simp [started]
      | some thread =>
          cases found : before.reader? thread with
          | none => simp [started, found]
          | some reader =>
              obtain ⟨later, present, grown⟩ := collects thread reader found
              simpa [started, found, present] using grown

/-- Stopping only adds to what has been captured. -/
theorem stop_adds (capture : Capture) (stream : Stream) :
    Ensures (fun _ => True) capture.stop fun stopped _ =>
      capture.captured.get stream <+: stopped.captured.get stream := by
  unfold Capture.stop
  split
  · exact fun _ _ => List.prefix_refl _
  · intro host _
    cases stream with
    | stdout => exact List.prefix_append _ _
    | stderr => exact List.prefix_append _ _

/-- So does starting, also when it fails. -/
theorem start_adds (capture : Capture) (stream : Stream) :
    Ensures (fun _ => True) capture.start fun outcome _ =>
      capture.captured.get stream <+: outcome.2.captured.get stream :=
  capture.start_leads (fun _ => List.prefix_refl _)
    (fun taps _ _ _ _ => stop_adds { capture with taps := some taps } stream)
    fun _ => List.prefix_refl _

/-! ## Idle captures -/

/-- A piece that the process writes. -/
abbrev own (bytes : Bytes) : List Piece :=
  [⟨.process, bytes⟩]

/-- What is true of the situation that a life begins with. -/
structure Beginning (first : Situation) (files : PerStream OpenFile) : Prop where
  inactive : first.capture.taps = none
  wellFormed : first.host.WellFormed
  reads : first.host.NoReadFailures
  found : ∀ stream : Stream, first.host.opened stream.number = some (files.get stream)

/-- All that was written since the first situation is accounted for: `caught` has been
captured, and what is `plain` has gone to the files that the streams refer to while the capture
is not active, but for what is held back, as far as these take what is written. -/
structure Books (first : Situation) (files : PerStream OpenFile) (plain caught : Stream → Bytes)
    (capture : Capture) (host : Host) : Prop where
  accounts : first.host.Accounts first.host.opened.Flows files first.host.heldBack
    (fun stream => own (plain stream)) host
  captured : ∀ stream,
    capture.captured.get stream = first.capture.captured.get stream ++ caught stream

/-- The capture is idle.  Since the first situation the process has written `plain` to the
streams while the capture was not active, and `caught` is what has been captured. -/
structure Idle (first : Situation) (files : PerStream OpenFile) (plain caught : Stream → Bytes)
    (now : Situation) : Prop where
  inactive : now.capture.taps = none
  shows : now.host.Shows first.host.opened first.host.threads
  grows : Host.Grows first.host now.host
  reads : now.host.NoReadFailures
  books : Books first files plain caught now.capture now.host

namespace Beginning

variable {first : Situation} {files : PerStream OpenFile}

theorem idle (beginning : Beginning first files) :
    Idle first files (fun _ => []) (fun _ => []) first where
  inactive := beginning.inactive
  shows := ⟨rfl, List.Subset.refl _⟩
  grows := .refl _
  reads := beginning.reads
  books := ⟨.initially first.host.opened.Flows first.host files, fun _ => (List.append_nil _).symm⟩

end Beginning

namespace Idle

variable {first now : Situation} {files : PerStream OpenFile} {plain caught : Stream → Bytes}

theorem isActive (idle : Idle first files plain caught now) : now.isActive = false := by
  simp [Situation.isActive, Capture.isActive, idle.inactive]

/-- While the capture is idle the streams refer to the files of the beginning. -/
theorem found (idle : Idle first files plain caught now) (beginning : Beginning first files)
    (stream : Stream) : now.host.opened stream.number = some (files.get stream) :=
  idle.shows.files ▸ beginning.found stream

theorem takes (idle : Idle first files plain caught now) {stream : Stream}
    (flowing : first.host.opened.Flows stream) : now.host.opened.Takes stream.number :=
  idle.shows.files ▸ flowing

theorem wellFormed (idle : Idle first files plain caught now)
    (beginning : Beginning first files) : now.host.WellFormed :=
  beginning.wellFormed.of_shows idle.shows idle.grows

/-- The capture can be started from there. -/
theorem clear (idle : Idle first files plain caught now) (beginning : Beginning first files) :
    now.host.stage.Clear files :=
  ⟨idle.found beginning, (idle.wellFormed beginning).readers, (idle.wellFormed beginning).writers⟩

/-- What the process writes goes to the files of before. -/
theorem write (idle : Idle first files plain caught now) (beginning : Beginning first files)
    (stream : Stream) (bytes : Bytes) :
    Idle first files (fun other => plain other ++ stream.only bytes other) caught
      { now with host := (stream.write bytes now.host).2 } := by
  have utterances := stream.write_utterances bytes now.host
  constructor
  · exact idle.inactive
  · exact idle.shows.still utterances.still
  · exact idle.grows.trans utterances.steps.grows
  · exact idle.reads.later utterances.steps.schedule_suffix
  · obtain ⟨accounts, captured⟩ := idle.books
    exact ⟨accounts.write (idle.found beginning) (fun _ => idle.takes) stream bytes, captured⟩

theorem playRound (idle : Idle first files plain caught now) (round : Round) :
    Idle first files plain caught { now with host := now.host.playRound round } := by
  have ran := Host.readersRan_playRound now.host round
  constructor
  · exact idle.inactive
  · exact idle.shows.still ran.still
  · exact idle.grows.trans ran.grows
  · exact idle.reads.later ran.schedule_suffix
  · exact ⟨idle.books.accounts.mute (.readersRan ran), idle.books.captured⟩

end Idle

/-! ## Captures that are underway -/

/-- At `started` a capture was started that had been idle before, and that had caught
`earlier` by then.  If standard output takes what is written, nothing was held back then. -/
structure Begun (first : Situation) (files : PerStream OpenFile) (plain earlier : Stream → Bytes)
    (stage : Stage) (threads : PerStream Nat) (before active : Capture) (started : Host) :
    Prop where
  clear : stage.Clear files
  active : Active stage files before active threads started
  connects : (stage.wiring files).Connects first.host.opened started.opened
  threads : started.threads ⊆
    (threads.stderr, (stage.wiring files).sources.stderr) ::
      (threads.stdout, (stage.wiring files).sources.stdout) :: first.host.threads
  grows : Host.Grows first.host started
  books : Books first files plain earlier before started
  empty : first.host.opened.Flows .stdout → started.lineBuffer = []

/-- No file and no initial target has got anything since `started`. -/
structure Unseen (started host : Host) : Prop where
  received : host.received = started.received
  files : host.files = started.files

/-- The channels of the plumbing are all that has got anything since `started`. -/
def Sheltered (plumbing : Plumbing) (started : Host) (taken : Stream → Bytes) (host : Host) :
    Prop :=
  Host.Tapping plumbing started taken host ∧ Unseen started host

theorem sheltered_sink (plumbing : Plumbing) (started : Host) :
    Sink Stream.Each (Sheltered plumbing started) := by
  apply (Host.tapping_sink plumbing started).keeping
  · intro taken host stream bytes tapping unseen
    have rest := (Host.fed_feed (plumbing.channels stream).pipe host bytes).rest
    rw [tapping.feeding.write_eq]
    constructor
    · change (Host.feed _ host bytes).received = started.received
      rw [rest]
      exact unseen.received
    · change (Host.feed _ host bytes).files = started.files
      rw [rest]
      exact unseen.files
  · exact fun lineBuffer unseen => ⟨unseen.received, unseen.files⟩

/-- Since a capture was started the process has written `recent` to the streams, which
is in the channels of the capture, but for what is held back. -/
structure Proceeding (stage : Stage) (files : PerStream OpenFile) (threads : PerStream Nat)
    (started : Host) (recent : Stream → Bytes) (host : Host) : Prop where
  still : Host.Still started host
  grows : Host.Grows started host
  ledger : Host.Ledger Stream.Each (Sheltered (stage.plumbing files threads) started)
    started.heldBack (fun stream => own (recent stream)) host

/-- The capture is underway.  Since the first situation the process has written `plain` to
the streams while the capture was not active, and `caught` is what will have been captured once
everything is read. -/
inductive Underway (first : Situation) (files : PerStream OpenFile)
    (plain caught : Stream → Bytes) (now : Situation) : Prop
  | intro {stage : Stage} {threads : PerStream Nat} {before : Capture} {started : Host}
      {earlier recent : Stream → Bytes}
      (begun : Begun first files plain earlier stage threads before now.capture started)
      (proceeding : Proceeding stage files threads started recent now.host)
      (caught : ∀ stream,
        caught stream = earlier stream ++ (started.heldBack stream ++ recent stream))

namespace Proceeding

variable {stage : Stage} {files : PerStream OpenFile} {threads : PerStream Nat}
  {started host : Host} {recent : Stream → Bytes}

theorem start {before active : Capture} (clear : stage.Clear files)
    (isActive : Active stage files before active threads started) :
    Proceeding stage files threads started (fun _ => []) started where
  still := .refl _
  grows := .refl _
  ledger := by
    exact ⟨fun _ => [], ⟨isActive.tapping clear, rfl, rfl⟩, fun stream _ =>
      .unwritten started stream⟩

/-- What the process writes goes to the capture. -/
theorem write (proceeding : Proceeding stage files threads started recent host) (stream : Stream)
    (bytes : Bytes) :
    Proceeding stage files threads started (fun other => recent other ++ stream.only bytes other)
      (stream.write bytes host).2 := by
  have utterances := stream.write_utterances bytes host
  obtain ⟨taken, sheltered, arrives⟩ :=
    (sheltered_sink _ started).writeStream stream bytes host proceeding.ledger
  constructor
  · exact proceeding.still.trans utterances.still
  · exact proceeding.grows.trans utterances.steps.grows
  · exact ⟨taken, sheltered, fun other each => (arrives other each).merged⟩

theorem playRound (proceeding : Proceeding stage files threads started recent host) {round : Round}
    (sound : ∀ step ∈ round, ∀ error, step.2 ≠ .fail error) :
    Proceeding stage files threads started recent (host.playRound round) := by
  have ran := Host.readersRan_playRound host round
  obtain ⟨taken, ⟨tapping, unseen⟩, arrives⟩ := proceeding.ledger
  have held : (host.playRound round).heldBack = host.heldBack := (Host.Mute.readersRan ran).heldBack
  constructor
  · exact proceeding.still.trans ran.still
  · exact proceeding.grows.trans ran.grows
  · refine ⟨taken, ⟨tapping.playRound sound, ?_⟩, held ▸ arrives⟩
    exact ⟨ran.received.trans unseen.received, ran.files.trans unseen.files⟩

/-- What is written while the capture is underway reaches no file. -/
theorem unseen (proceeding : Proceeding stage files threads started recent host) :
    Unseen started host := by
  obtain ⟨taken, ⟨-, unseen⟩, -⟩ := proceeding.ledger
  exact unseen

/-- The readers do not have more than was held back at the start and was written
since. -/
theorem collected_prefix (proceeding : Proceeding stage files threads started recent host)
    (stream : Stream) : ∃ reader, host.reader? (threads.get stream) = some reader ∧
      reader.collected <+: started.heldBack stream ++ recent stream := by
  obtain ⟨taken, ⟨tapping, -⟩, arrives⟩ := proceeding.ledger
  obtain ⟨reader, found, -, content, -⟩ := (tapping.feeding.carries stream).reader
  have whole := (arrives stream trivial).in_order fun isStderr => isStderr ▸ rfl
  rw [← content, List.append_assoc] at whole
  exact ⟨reader, found, _, whole⟩

end Proceeding

namespace Underway

variable {first now : Situation} {files : PerStream OpenFile} {plain caught : Stream → Bytes}

theorem isActive (underway : Underway first files plain caught now) : now.isActive = true := by
  rcases underway with ⟨begun, -, -⟩
  simp [Situation.isActive, Capture.isActive, begun.active.taps]

theorem write (underway : Underway first files plain caught now) (stream : Stream)
    (bytes : Bytes) :
    Underway first files plain (fun other => caught other ++ stream.only bytes other)
      { now with host := (stream.write bytes now.host).2 } := by
  rcases underway with ⟨begun, proceeding, caught⟩
  refine ⟨begun, proceeding.write stream bytes, fun other => ?_⟩
  rw [caught]
  simp only [List.append_assoc]

theorem playRound (underway : Underway first files plain caught now) {round : Round}
    (sound : ∀ step ∈ round, ∀ error, step.2 ≠ .fail error) :
    Underway first files plain caught { now with host := now.host.playRound round } := by
  rcases underway with ⟨begun, proceeding, caught⟩
  exact ⟨begun, proceeding.playRound sound, caught⟩

end Underway

/-! ## Starting and stopping -/

theorem start_steps (capture : Capture) (host : Host) :
    Host.Steps (fun _ => False) host (capture.start host).2 :=
  (Spares.start (fun _ => not_false) capture.own_none host fun _ isForeign => isForeign.elim).1

theorem stop_steps (capture : Capture) (host : Host) :
    Host.Steps (fun _ => False) host (capture.stop host).2 :=
  (Spares.stop (fun _ => not_false) capture.own_none host fun _ isForeign => isForeign.elim).1

/-- A capture that has just been started is underway.  What could not be flushed gets into its
pipes. -/
theorem Begun.underway {first : Situation} {files : PerStream OpenFile}
    {plain earlier : Stream → Bytes} {stage : Stage} {threads : PerStream Nat}
    {before active : Capture} {started : Host}
    (begun : Begun first files plain earlier stage threads before active started) :
    Underway first files plain (fun stream => earlier stream ++ stage.unflushed stream)
      { capture := active, host := started } := by
  refine ⟨begun, .start begun.clear begun.active, fun stream => ?_⟩
  rw [begun.clear.heldBack begun.active.lineBuffer, List.append_nil]

/-- What starting an idle capture leads to: it stays idle, or it has begun. -/
def StartsFrom (first : Situation) (files : PerStream OpenFile) (plain caught : Stream → Bytes)
    (now : Situation) : Except CaptureError Unit × Capture → Host → Prop
  | (.error error, after), host =>
      Idle first files plain
        (fun stream => caught stream ++ error.spills (now.host.stage.unflushed stream))
        { capture := after, host }
  | (.ok (), after), host => ∃ threads,
      Begun first files plain caught now.host.stage threads now.capture after host

theorem Idle.start {first now : Situation} {files : PerStream OpenFile}
    {plain caught : Stream → Bytes} (idle : Idle first files plain caught now)
    (beginning : Beginning first files) :
    StartsFrom first files plain caught now (now.capture.start now.host).1
      (now.capture.start now.host).2 := by
  have wellFormed := idle.wellFormed beginning
  have clear := idle.clear beginning
  have flushes (flowing : first.host.opened.Flows .stdout) :
      now.host.stage.unflushed .stdout = [] :=
    now.host.stage.unflushed_eq_nil (.inr (idle.takes flowing).accepts) .stdout
  let book := first.host.Accounts first.host.opened.Flows files first.host.heldBack
    fun stream => own (plain stream)
  have kept {before after : Host} (muffled : now.host.stage.Muffled before after)
      (booked : book before) : book after := by
    by_cases flowing : first.host.opened.Flows .stdout
    · exact booked.mute (muffled.mute (flushes flowing))
    · exact booked.withheld flowing muffled.stderr
  have starts := Ensures.start_active clear wellFormed.sources_open now.capture kept
    (Ensures.redirectBoth_accounts clear (fun _ => idle.takes) _) now.host
    ⟨wellFormed.reaches idle.reads, idle.books.accounts⟩
  have shown := Ensures.start idle.inactive now.host idle.shows
  have steps := now.capture.start_steps now.host
  have grows := idle.grows.trans (Host.Steps.grows steps)
  have reads := idle.reads.later (Host.Steps.schedule_suffix steps)
  rcases begun : now.capture.start now.host with ⟨⟨error | done, after⟩, started⟩
  · rw [begun] at starts shown grows reads
    obtain ⟨inactive, shows⟩ := shown
    obtain ⟨accounts, captured⟩ := starts
    refine ⟨inactive, shows, grows, reads, accounts, fun stream => ?_⟩
    rw [captured stream, idle.books.captured stream, List.append_assoc]
  · rw [begun] at starts shown grows reads
    obtain ⟨accounts, inactive, threads, active⟩ := starts
    obtain ⟨wiring, readers, pipes, files', isActive, connects, -, shows⟩ := shown
    obtain ⟨rfl, rfl⟩ := active.unique isActive
    refine ⟨readers, ?_⟩
    constructor
    · exact clear
    · exact active
    · exact shows.files ▸ connects
    · exact shows.threads
    · exact grows
    · exact ⟨accounts, idle.books.captured⟩
    · exact fun flowing =>
        (congrFun (clear.heldBack active.lineBuffer) .stdout).trans (flushes flowing)

/-- Stopping a capture that is underway hands out everything, and no file has got
anything since the start. -/
theorem Begun.stops {first : Situation} {files : PerStream OpenFile}
    {plain earlier recent : Stream → Bytes} {stage : Stage} {threads : PerStream Nat}
    {before active : Capture} {started host : Host}
    (begun : Begun first files plain earlier stage threads before active started)
    (proceeding : Proceeding stage files threads started recent host) :
    (active.stop host).2.lineBuffer = [] ∧
      (∀ stream, (active.stop host).1.captured.get stream =
        before.captured.get stream ++ (started.heldBack stream ++ recent stream)) ∧
      (active.stop host).2.NoReadFailures ∧
      started.journal <:+ (active.stop host).2.journal ∧
      (∀ stream : Stream,
        (active.stop host).2.passedSince started stream.number (files.get stream) = []) ∧
      Unseen started (active.stop host).2 := by
  obtain ⟨taken, flushed, ⟨⟨tapping, unseen⟩, empty, arrives, released⟩⟩ :=
    stop_gathers begun.active.taps begun.connects.apart (sheltered_sink _ started) And.left
      (fun thread sheltered => ⟨sheltered.1.askToStop thread, sheltered.2.received,
        sheltered.2.files⟩) proceeding.ledger
  have diverted := released.diverted
  refine ⟨released.lineBuffer.trans empty, fun stream => ?_, diverted.sound,
    tapping.grown.trans diverted.grown, fun stream => ?_, ?_⟩
  · have whole := (arrives stream).in_order fun isStderr => isStderr ▸ rfl
    rw [released.captured, begun.active.captured, ← whole, List.append_nil]
  · exact (released.mute.passedSince tapping.grown stream _).trans (tapping.passed stream)
  · exact ⟨diverted.received.trans unseen.received, diverted.files.trans unseen.files⟩

/-- A capture that is stopped is idle again, and has all that its readers had. -/
theorem Underway.stop {first now : Situation} {files : PerStream OpenFile}
    {plain caught : Stream → Bytes} (underway : Underway first files plain caught now) :
    Idle first files plain caught
        { capture := (now.capture.stop now.host).1, host := (now.capture.stop now.host).2 } ∧
      ∀ stream, now.bytes stream <+: (now.capture.stop now.host).1.captured.get stream := by
  rcases underway with
    @⟨stage, threads, before, started, earlier, recent, begun, proceeding, caught⟩
  obtain ⟨flushed, captured, reads, grown, passed, -⟩ := begun.stops proceeding
  have saved (stream : Stream) : started.opened ((stage.wiring files).copies.get stream) ≠ none :=
    begun.connects.taken _ (Wiring.mem_numbers.mpr ⟨stream, .inr (.inr rfl)⟩)
  have shown : now.host.Shows started.opened started.threads :=
    Host.Shows.still ⟨rfl, List.Subset.refl _⟩ proceeding.still
  obtain ⟨inactive, stopped⟩ :=
    Ensures.stop begun.active.taps begun.connects.apart saved now.host shown
  have steps := now.capture.stop_steps now.host
  constructor
  · constructor
    · exact inactive
    · constructor
      · exact stopped.files.trans begun.connects.released
      · have left := Tap.joined_subset (some threads.stderr)
          (Tap.joined_subset (some threads.stdout) begun.threads)
        exact List.Subset.trans stopped.threads
          (List.Subset.trans left (Tap.joined_both _ _ _ _ _))
    · exact begun.grows.trans (proceeding.grows.trans (Host.Steps.grows steps))
    · exact reads
    · obtain ⟨accounts, hadCaptured⟩ := begun.books
      constructor
      · apply accounts.later grown fun stream _ => passed stream
        rintro (_ | _) flowing
        · exact flushed.trans (begun.empty flowing).symm
        · rfl
      · intro stream
        rw [captured, hadCaptured, caught, List.append_assoc]
  · intro stream
    obtain ⟨reader, found, grown⟩ := proceeding.collected_prefix stream
    have bytes : now.bytes stream = before.captured.get stream ++ reader.collected := by
      rw [Situation.bytes, bytes_apply, begun.active.capture]
      cases stream with
      | stdout =>
          simpa [Wiring.taps, PerStream.map, PerStream.get] using by simp_all [PerStream.get]
      | stderr =>
          simpa [Wiring.taps, PerStream.map, PerStream.get] using by simp_all [PerStream.get]
    rw [bytes, captured, List.prefix_append_right_inj]
    exact grown

end Capture

end CompileDriver
