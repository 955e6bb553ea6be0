import CompileDriver.Proofs.Guard.Restore
import CompileDriver.Proofs.Guard.Started
import CompileDriver.Proofs.Host.Spawn
import CompileDriver.Proofs.Host.WellFormed

/-!
# Captures are exact

Whatever is written to the streams while a capture is active, by the process or by
programs that inherit the streams, and however the reader threads move in between:
once the capture has been stopped it holds exactly what reached the streams, in
this order, and nothing of it has reached any other file.  What reaches the streams
does not depend on the readers, so that captures that poll and captures that wait
hold the same.

An episode starts a capture, lets some things happen while it is active, and stops
it.
-/

namespace CompileDriver

/-! ## Episodes -/

/-- Something that happens while a capture is active. -/
inductive Happening
  /-- The process writes to a stream. -/
  | write (stream : Stream) (bytes : Bytes)
  /-- A program that inherits the streams writes to one of them. -/
  | inherited (stream : Stream) (bytes : Bytes)
  /-- The reader threads move. -/
  | readers (round : Round)

/-- Let something happen. -/
def Happening.perform : Happening → Action Unit
  | .write stream bytes => stream.write bytes
  | .inherited stream bytes => Spawn.writeInherited stream bytes
  | .readers round => modify fun host => host.playRound round

/-- Let some things happen, one after the other. -/
def happen (happenings : List Happening) : Action Unit :=
  happenings.forM Happening.perform

namespace Capture

/-- What comes of a capture that is started, while some things happen, and
stopped. -/
structure Episode where
  /-- How starting ended. -/
  outcome : Except CaptureError Unit
  /-- The host when the capture had been started. -/
  started : Host
  /-- The capture after it was stopped. -/
  stopped : Capture
  /-- The host after the capture was stopped. -/
  final : Host

/-- Start a capture, let some things happen and stop it. -/
def episode (capture : Capture) (happenings : List Happening) (host : Host) : Episode :=
  let ((outcome, active), started) := capture.start host
  let ((), played) := happen happenings started
  let (stopped, final) := active.stop played
  { outcome, started, stopped, final }

end Capture

/-! ## What is captured in an episode -/

namespace Happening

/-- No read fails for good. -/
def IsSound : Happening → Prop
  | .readers round => ∀ step ∈ round, ∀ error, step.2 ≠ .fail error
  | _ => True

/-- Whether something is written. -/
def isWriting : Happening → Bool
  | .readers _ => false
  | _ => true

theorem determined {happening : Happening} (writing : happening.isWriting = true) :
    Determined happening.perform := by
  cases happening with
  | write stream bytes => exact .writeStream stream bytes
  | inherited stream bytes => exact .writeInherited stream bytes
  | readers round => cases writing

end Happening

theorem does_readers {buffer left : Bytes} {added : Stream → Bytes} {round : Round}
    {rest : List Happening} (sound : ∀ step ∈ round, ∀ error, step.2 ≠ .fail error)
    (does : Does buffer (happen rest) () added left) :
    Does buffer (happen (.readers round :: rest)) () added left :=
  Does.bind (Does.playRound buffer sound) does

/-- What the streams take depends on what is written, and not on the moves of the
readers in between. -/
theorem happen_determined (writings : List Happening) (buffer : Bytes) :
    ∃ added left, ∀ happenings : List Happening,
      (∀ happening ∈ happenings, happening.IsSound) →
        happenings.filter Happening.isWriting = writings →
          Does buffer (happen happenings) () added left := by
  induction writings generalizing buffer with
  | nil =>
      refine ⟨fun _ => [], buffer, fun happenings sound same => ?_⟩
      induction happenings with
      | nil => exact fun capturing held => ⟨rfl, held, capturing.idle⟩
      | cons happening rest ih =>
          obtain ⟨isSound, soundRest⟩ := List.forall_mem_cons.mp sound
          cases happening with
          | write stream bytes => cases same
          | inherited stream bytes => cases same
          | readers round => exact does_readers isSound (ih soundRest same)
  | cons writing writings ih =>
      by_cases isWriting : writing.isWriting = true
      · obtain ⟨value, added, middle, does⟩ := Happening.determined isWriting buffer
        obtain ⟨more, left, doesRest⟩ := ih middle
        refine ⟨fun stream => added stream ++ more stream, left, fun happenings sound same => ?_⟩
        induction happenings with
        | nil => cases same
        | cons happening rest inner =>
            obtain ⟨isSound, soundRest⟩ := List.forall_mem_cons.mp sound
            cases happening with
            | write stream bytes =>
                obtain ⟨rfl, sameRest⟩ := List.cons.inj same
                exact does.bind (doesRest rest soundRest sameRest)
            | inherited stream bytes =>
                obtain ⟨rfl, sameRest⟩ := List.cons.inj same
                exact does.bind (doesRest rest soundRest sameRest)
            | readers round => exact does_readers isSound (inner soundRest same)
      · -- a list that was filtered only holds what is written
        refine ⟨fun _ => [], buffer, fun happenings _ same => absurd ?_ isWriting⟩
        have member : writing ∈ happenings.filter Happening.isWriting :=
          same ▸ List.mem_cons_self
        exact (List.mem_filter.mp member).2

namespace Host

theorem Capturing.askToStop {bound : Nat} {channels : Stream → Channel} {started host : Host}
    {reached : Stream → Bytes} (capturing : Capturing bound channels started reached host)
    (tap : Tap) :
    Capturing bound channels started reached (Capture.askToStop tap host).2 ∧
      (Capture.askToStop tap host).2.lineBuffer = host.lineBuffer := by
  rcases tap with ⟨scope, writer, source, _ | thread⟩
  · exact ⟨capturing, rfl⟩
  · have diverted := capturing.diverted
    exact
      ⟨{ feeding := capturing.feeding.askToStop thread
         table := capturing.table
         diverted := ⟨diverted.sound, diverted.grown, diverted.delivered, diverted.received,
          diverted.files, diverted.older, diverted.stuck⟩ }, rfl⟩

end Host

namespace Capture

/-- A capture that is not active has what it has captured before. -/
theorem bytes_of_inactive {capture : Capture} (inactive : capture.taps = none) (stream : Stream)
    (host : Host) : (capture.bytes stream host).1 = capture.captured.get stream := by
  simp [bytes, inactive]

/-- A capture that has been stopped holds what it held before and what the streams
have taken since it was started. -/
structure Stopped (bound : Nat) (started : Host) (reached : Stream → Bytes)
    (before after : Capture) (host : Host) : Prop where
  inactive : after.taps = none
  captured : ∀ stream, after.captured.get stream = before.captured.get stream ++ reached stream
  diverted : Host.Diverted bound started reached host

/-- Stopping an active capture: standard output is flushed first, and what the
streams have taken by then is what the capture holds. -/
theorem stopped_of_capturing {stage : Stage} {files : PerStream OpenFile}
    (clear : stage.Clear files) {before after : Capture} {threads : PerStream Nat}
    {started host : Host} {reached more : Stream → Bytes} {held : Bytes}
    (active : Active stage files before after threads started)
    (capturing : Host.Capturing stage.pipes ((stage.wiring files).channels stage.pipeOf threads)
      started reached host) (buffered : host.lineBuffer = held)
    (flushes : ∀ host : Host, Host.Capturing stage.pipes
      ((stage.wiring files).channels stage.pipeOf threads) started reached host →
        host.lineBuffer = held → Host.Capturing stage.pipes
          ((stage.wiring files).channels stage.pipeOf threads) started
          (fun stream => reached stream ++ more stream) (Stream.stdout.flush host).2) :
    Stopped stage.pipes started (fun stream => reached stream ++ more stream) before
      (after.stop host).1 (after.stop host).2 := by
  obtain ⟨askedOnce, keptOnce⟩ :=
    capturing.askToStop ((stage.wiring files).taps (threads.map some)).stdout
  obtain ⟨asked, kept⟩ :=
    askedOnce.askToStop ((stage.wiring files).taps (threads.map some)).stderr
  have flushed := flushes _ asked (kept.trans (keptOnce.trans buffered))
  have inPlace := clear.inPlace
  rw [← active.table, ← flushed.table] at inPlace
  have apart := flushed.feeding.separate.threads .stdout .stderr (by decide)
  have running (stream : Stream) : stream ∈ [Stream.stdout, .stderr] ∧
      (threads.map some).get stream = some (threads.get stream) := by
    cases stream <;> simp [PerStream.get, PerStream.map]
  have released := Ensures.release after inPlace clear.found.connects.apart (fun _ _ => apart)
    (fun stream => .inl (running stream)) _ (flushed.feeding.draining [.stdout, .stderr])
  rw [← stop_apply active.taps host] at released
  refine ⟨released.inactive, fun stream => ?_, ?_⟩
  · rw [released.captured, active.captured]
  · simpa using flushed.diverted.trans released.diverted

/-- From a stage on, what the streams take is fixed by what is written. -/
theorem stopped_of_stage {stage : Stage} {files : PerStream OpenFile} (clear : stage.Clear files)
    (writings : List Happening) :
    ∃ reached : Stream → Bytes, ∀ {sources : List Nat} {host : Host} (capture : Capture)
      (happenings : List Happening), host.Reaches stage.pipes sources stage →
      (∀ source ∈ sources, stage.table.file? source ≠ none) →
      (∀ happening ∈ happenings, happening.IsSound) →
      happenings.filter Happening.isWriting = writings →
      (capture.episode happenings host).outcome = .ok () →
        capture.taps = none ∧
          Stopped stage.pipes (capture.episode happenings host).started reached capture
            (capture.episode happenings host).stopped
            (capture.episode happenings host).final := by
  obtain ⟨added, left, happens⟩ := happen_determined writings (stage.tapped files).lineBuffer
  obtain ⟨_, more, _, flushes⟩ := Determined.flush .stdout left
  refine ⟨fun stream => [] ++ added stream ++ more stream, ?_⟩
  intro sources host capture happenings reaches sourcesOpen sound same succeeded
  have starts := Ensures.start_active clear sourcesOpen capture (fun _ _ => trivial)
    (fun _ _ => trivial) host ⟨reaches, trivial⟩
  rcases begun : capture.start host with ⟨⟨outcome, after⟩, started⟩
  simp only [episode, begun] at succeeded starts ⊢
  subst succeeded
  obtain ⟨-, inactive, threads, active⟩ := starts
  obtain ⟨-, leaves, played⟩ := happens happenings sound same active.capturing active.lineBuffer
  refine ⟨inactive, ?_⟩
  exact stopped_of_capturing clear active played leaves fun host capturing held =>
    (flushes capturing held).2.2

/-- What an episode comes to: the capture holds what it held before and what
reached the streams while it was active, and no other file got any of it. -/
structure Exact (before : Host) (capture : Capture) (episode : Episode) : Prop where
  captured : ∀ stream, (episode.stopped.bytes stream episode.final).1 =
    (capture.bytes stream before).1 ++
      episode.final.deliveredSince episode.started stream.number
  received : episode.final.received = episode.started.received
  files : episode.final.files = episode.started.files
  /-- A pipe that existed before only loses bytes to its readers. -/
  older : ∀ pipe < before.pipes.length,
    episode.final.queue pipe <:+ episode.started.queue pipe
  /-- Stopping returns. -/
  running : episode.final.stuck = episode.started.stuck

theorem Stopped.exact {before : Host} {capture : Capture} {episode : Episode}
    {reached : Stream → Bytes} (inactive : capture.taps = none)
    (stopped : Stopped before.pipes.length episode.started reached capture episode.stopped
      episode.final) : Exact before capture episode where
  captured stream := by
    simp only [bytes, Action.bind_apply, Action.get_apply, Action.pure_apply, inactive,
      stopped.inactive, stopped.captured, stopped.diverted.delivered, Option.bind_none,
      Option.map_none, Option.getD_none, List.append_nil]
  received := stopped.diverted.received
  files := stopped.diverted.files
  older := stopped.diverted.older
  running := stopped.diverted.stuck

end Capture

/-- The stage that a host is at. -/
def Host.stage (host : Host) : Stage :=
  { table := host.table, pipes := host.pipes.length, lineBuffer := host.lineBuffer }

/-- What can be flushed does not stay behind. -/
theorem Host.CanFlush.unflushed {host : Host} (flushes : host.CanFlush) (stream : Stream) :
    host.stage.unflushed stream = [] :=
  host.stage.unflushed_eq_nil flushes stream

theorem Host.WellFormed.reaches {host : Host} (wellFormed : host.WellFormed)
    (sound : host.NoReadFailures) :
    host.Reaches host.pipes.length (host.readers.map Reader.source) host.stage where
  table := rfl
  pipes := rfl
  lineBuffer := rfl
  sound := sound
  threads := wellFormed.threads
  sources reader member := List.mem_map_of_mem member
  fresh pipe new := by
    simp [Host.queue, List.getD_eq_getElem?_getD, List.getElem?_eq_none new]

theorem Host.WellFormed.clear {host : Host} (wellFormed : host.WellFormed)
    (isOpen : ∀ stream : Stream, host.opened stream.number ≠ none) :
    ∃ files, host.stage.Clear files := by
  obtain ⟨files, found⟩ := OpenFiles.exists_files isOpen
  exact ⟨files, found, wellFormed.readers, wellFormed.writers⟩

theorem Host.WellFormed.sources_open {host : Host} (wellFormed : host.WellFormed) :
    ∀ source ∈ host.readers.map Reader.source, host.stage.table.file? source ≠ none := by
  intro source member
  obtain ⟨reader, present, rfl⟩ := List.mem_map.mp member
  exact wellFormed.sources reader present

namespace Capture

/-- Captures are exact.  From every well-formed host whose streams are open, if the
capture starts, what it holds after it was stopped is what reached the streams while
it was active, behind what it held before.  It does not depend on the readers: a
capture that waits and a capture that polls hold the same when the same is written,
whatever their readers do in between. -/
theorem captures_are_exact (capture : Capture) {host : Host} (wellFormed : host.WellFormed)
    (isOpen : ∀ stream : Stream, host.opened stream.number ≠ none)
    (readsSucceed : host.NoReadFailures) {happenings : List Happening}
    (sound : ∀ happening ∈ happenings, happening.IsSound)
    (started : (capture.episode happenings host).outcome = .ok ()) :
    Exact host capture (capture.episode happenings host) ∧
      ∀ (nonblocking : Bool) (schedule : List Round) (refusals : List (Option OsError))
        (others : List Happening),
        let other : Episode := ({ capture with nonblocking } : Capture).episode others
          { host with schedule, refusals }
        ({ host with schedule, refusals } : Host).NoReadFailures →
        (∀ happening ∈ others, happening.IsSound) →
        others.filter Happening.isWriting = happenings.filter Happening.isWriting →
        other.outcome = .ok () →
          ∀ stream, (other.stopped.bytes stream other.final).1 =
            ((capture.episode happenings host).stopped.bytes stream
              (capture.episode happenings host).final).1 := by
  obtain ⟨files, clear⟩ := wellFormed.clear isOpen
  have sourcesOpen := wellFormed.sources_open
  obtain ⟨reached, stops⟩ :=
    stopped_of_stage clear (happenings.filter Happening.isWriting)
  obtain ⟨inactive, stopped⟩ :=
    stops capture happenings (wellFormed.reaches readsSucceed) sourcesOpen sound rfl started
  have exact : Exact host capture (capture.episode happenings host) := stopped.exact inactive
  refine ⟨exact, ?_⟩
  intro nonblocking schedule refusals others other otherReads otherSound same otherStarted stream
  have wellFormedToo : ({ host with schedule, refusals } : Host).WellFormed :=
    ⟨wellFormed.readers, wellFormed.writers, wellFormed.threads, wellFormed.sources⟩
  obtain ⟨otherInactive, otherStopped⟩ :=
    stops { capture with nonblocking } others (wellFormedToo.reaches otherReads) sourcesOpen
      otherSound same otherStarted
  have otherExact : Exact { host with schedule, refusals } { capture with nonblocking } other :=
    otherStopped.exact otherInactive
  rw [exact.captured, otherExact.captured, stopped.diverted.delivered,
    otherStopped.diverted.delivered]
  rfl

/-- A line is written in two halves, and a program that inherits the stream writes
in between, while a reader takes a few bytes. -/
def interleaved : List Happening :=
  [.write .stdout (Bytes.ofText "half a "), .inherited .stdout (Bytes.ofText "whole line\n"),
    .readers [(0, .interrupted), (0, .read 3), (1, .wouldBlock)],
    .write .stderr (Bytes.ofText "warning"), .write .stdout (Bytes.ofText "line\nand")]

/-- The program comes first, because the process still holds back its half line. -/
theorem captures_are_exact_interleaved :
    let capture : Capture := { captured := { stdout := Bytes.ofText "before\n", stderr := [] } }
    let host := Host.start [] [] []
    Exact host capture (capture.episode interleaved host) ∧
      (capture.episode interleaved host).stopped.captured =
        { stdout := Bytes.ofText "before\nwhole line\nhalf a line\nand"
          stderr := Bytes.ofText "warning" } := by
  intro capture host
  have isOpen (stream : Stream) : host.opened stream.number ≠ none := by
    cases stream <;> exact nofun
  have sound : ∀ happening ∈ interleaved, happening.IsSound := by
    grind [interleaved, Happening.IsSound]
  have started : (capture.episode interleaved host).outcome = .ok () := by decide +kernel
  refine ⟨(captures_are_exact capture (Host.wellFormed_start [] [] []) isOpen nofun sound
    started).1, by decide +kernel⟩

end Capture

end CompileDriver
