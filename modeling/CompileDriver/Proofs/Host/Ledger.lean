import CompileDriver.Host.Spawn
import CompileDriver.Proofs.Host.Diverted

/-!
# What becomes of what is written

The process and the programs that it starts write to the same streams.  What the
process writes to standard output can wait in the line buffer, and what programs
write overtakes it there; nothing is lost on the way and nothing comes twice.
`Arrives` says this about the pieces that were written to a stream.

A sink is a kind of host of which some streams take whatever is written to them, such as
hosts whose streams are captured.  On a sink every write of the process adds its piece to
the ledger, and flushing such a stream leaves nothing of it in the line buffer.  The ledger
does not tell what becomes of the other streams.
-/

namespace CompileDriver

/-- Who writes to a stream. -/
inductive Writer
  /-- The process, which may hold back what it writes to standard output. -/
  | process
  /-- A program that inherits the stream. -/
  | program
  deriving Repr, DecidableEq

/-- Some bytes that are written to a stream in one go. -/
structure Piece where
  writer : Writer
  bytes : Bytes
  deriving Repr, DecidableEq

/-- Behind a line buffer that holds `held`, some pieces are written to standard
output: by then `arrived` has come out, and `left` is in the line buffer.  What a
program writes comes out at once, in one piece; the process is not ahead of what it
has written. -/
def ArrivesBuffered : Bytes → List Piece → Bytes → Bytes → Prop
  | held, [], arrived, left => arrived ++ left = held
  | held, ⟨.process, bytes⟩ :: rest, arrived, left =>
      ArrivesBuffered (held ++ bytes) rest arrived left
  | held, ⟨.program, bytes⟩ :: rest, arrived, left =>
      ∃ early late later, early ++ late = held ∧ arrived = early ++ bytes ++ later ∧
        ArrivesBuffered late rest later left

namespace ArrivesBuffered

variable {left now later : Bytes}

/-- The front of the line buffer can come out at any time. -/
theorem flushed {pieces : List Piece} {held arrived : Bytes}
    (arrives : ArrivesBuffered held pieces arrived (now ++ later)) :
    ArrivesBuffered held pieces (arrived ++ now) later := by
  induction pieces generalizing held arrived with
  | nil => exact (List.append_assoc _ _ _).trans arrives
  | cons piece rest ih =>
      rcases piece with ⟨_ | _, bytes⟩
      · exact ih arrives
      · rcases arrives with ⟨early, late, after, split, rfl, arrives⟩
        exact ⟨early, late, after ++ now, split, by simp, ih arrives⟩

/-- What the process writes next is put behind what is left. -/
theorem written {pieces : List Piece} {held arrived : Bytes}
    (arrives : ArrivesBuffered held pieces arrived left) (bytes : Bytes) :
    ArrivesBuffered held (pieces ++ [⟨.process, bytes⟩]) arrived (left ++ bytes) := by
  induction pieces generalizing held arrived with
  | nil =>
      change arrived ++ (left ++ bytes) = held ++ bytes
      rw [← List.append_assoc, show arrived ++ left = held from arrives]
  | cons piece rest ih =>
      rcases piece with ⟨_ | _, _⟩
      · exact ih arrives
      · rcases arrives with ⟨early, late, after, split, rfl, arrives⟩
        exact ⟨early, late, after, split, rfl, ih arrives⟩

/-- What a program writes next overtakes what is left. -/
theorem inherited {pieces : List Piece} {held arrived : Bytes}
    (arrives : ArrivesBuffered held pieces arrived left) (bytes : Bytes) :
    ArrivesBuffered held (pieces ++ [⟨.program, bytes⟩]) (arrived ++ bytes) left := by
  induction pieces generalizing held arrived with
  | nil => exact ⟨arrived, left, [], arrives, (List.append_nil _).symm, rfl⟩
  | cons piece rest ih =>
      rcases piece with ⟨_ | _, _⟩
      · exact ih arrives
      · rcases arrives with ⟨early, late, after, split, rfl, arrives⟩
        exact ⟨early, late, after ++ bytes, split, by simp, ih arrives⟩

/-- When only the process writes, everything comes out in order. -/
theorem in_order {pieces : List Piece} {held arrived : Bytes}
    (arrives : ArrivesBuffered held pieces arrived left)
    (own : ∀ piece ∈ pieces, piece.writer = .process) :
    arrived ++ left = held ++ pieces.flatMap Piece.bytes := by
  induction pieces generalizing held arrived with
  | nil => exact (show arrived ++ left = held from arrives).trans (List.append_nil held).symm
  | cons piece rest ih =>
      rcases piece with ⟨_ | _, bytes⟩
      · rw [ih arrives fun other member => own other (List.mem_cons_of_mem _ member)]
        simp
      · cases own _ List.mem_cons_self

end ArrivesBuffered

/-- Of the pieces that were written to a stream behind `held`, `arrived` has come
out and `left` is held back.  Standard error holds nothing back. -/
def Stream.Arrives (held : Bytes) (pieces : List Piece) (arrived left : Bytes) : Stream → Prop
  | .stdout => ArrivesBuffered held pieces arrived left
  | .stderr => arrived = pieces.flatMap Piece.bytes ∧ left = []

/-- Two writes of the process in a row are like one. -/
theorem Stream.Arrives.merged {stream other : Stream} {held written bytes arrived left : Bytes}
    (arrives : other.Arrives held ([⟨.process, written⟩] ++ stream.only [⟨.process, bytes⟩] other)
      arrived left) :
    other.Arrives held [⟨.process, written ++ stream.only bytes other⟩] arrived left := by
  by_cases same : other = stream
  · subst same
    rw [Stream.only_self] at arrives ⊢
    cases other with
    | stdout =>
        have whole : arrived ++ left = held ++ written ++ bytes := arrives
        exact whole.trans (List.append_assoc held written bytes)
    | stderr => simpa [Arrives] using arrives
  · simpa [Stream.only, same] using arrives

/-- What arrives first and what arrives later make up one whole. -/
theorem Stream.Arrives.continued {stream : Stream}
    {held first second arrived later left last : Bytes}
    (start : stream.Arrives held [⟨.process, first⟩] arrived left)
    (rest : stream.Arrives left [⟨.process, second⟩] later last) :
    stream.Arrives held [⟨.process, first ++ second⟩] (arrived ++ later) last := by
  cases stream with
  | stdout =>
      have early : arrived ++ left = held ++ first := start
      have late : later ++ last = left ++ second := rest
      calc arrived ++ later ++ last
        _ = arrived ++ left ++ second := by rw [List.append_assoc, late, ← List.append_assoc]
        _ = held ++ (first ++ second) := by rw [early, List.append_assoc]
  | stderr =>
      obtain ⟨rfl, rfl⟩ := start
      obtain ⟨rfl, rfl⟩ := rest
      simp [Arrives]

/-- When only the process writes, everything comes out in order. -/
theorem Stream.Arrives.in_order {stream : Stream} {held written arrived left : Bytes}
    (arrives : stream.Arrives held [⟨.process, written⟩] arrived left)
    (nothing : stream = .stderr → held = []) : arrived ++ left = held ++ written := by
  cases stream with
  | stdout => exact arrives
  | stderr =>
      obtain ⟨rfl, rfl⟩ := arrives
      simp [nothing rfl]

/-- When nothing is held back before or afterwards, and there is only one kind of writer,
everything comes out in order. -/
theorem Stream.Arrives.whole {stream : Stream} {pieces : List Piece} {arrived : Bytes}
    (arrives : stream.Arrives [] pieces arrived []) {writer : Writer}
    (only : ∀ piece ∈ pieces, piece.writer = writer) : arrived = pieces.flatMap Piece.bytes := by
  cases stream with
  | stderr => exact arrives.1
  | stdout =>
      cases writer with
      | process => simpa using ArrivesBuffered.in_order arrives only
      | program =>
          induction pieces generalizing arrived with
          | nil => exact (List.append_nil arrived).symm.trans arrives
          | cons piece rest ih =>
              obtain ⟨first, others⟩ := List.forall_mem_cons.mp only
              rcases piece with ⟨_ | _, bytes⟩
              · cases first
              · rcases arrives with ⟨early, late, later, split, rfl, arrives⟩
                obtain ⟨rfl, rfl⟩ := List.append_eq_nil_iff.mp split
                simp [ih arrives others]

/-- What the process holds back of a stream. -/
def Host.heldBack (host : Host) : Stream → Bytes
  | .stdout => host.lineBuffer
  | .stderr => []

theorem Host.heldBack_eq_nil {host : Host} (empty : host.lineBuffer = []) (stream : Stream) :
    host.heldBack stream = [] := by
  cases stream with
  | stdout => exact empty
  | stderr => rfl

theorem Host.heldBack_congr {before after : Host} (same : after.lineBuffer = before.lineBuffer) :
    after.heldBack = before.heldBack := by
  funext stream
  cases stream with
  | stdout => exact same
  | stderr => rfl

/-- Writing to one stream leaves what is held back of the other one. -/
theorem Stream.heldBack_write {stream other : Stream} (different : other ≠ stream) (bytes : Bytes)
    (host : Host) : (stream.write bytes host).2.heldBack other = host.heldBack other := by
  cases other with
  | stderr => rfl
  | stdout =>
      cases stream with
      | stdout => exact absurd rfl different
      | stderr =>
          change (Stream.writeOut .stderr bytes host).2.lineBuffer = host.lineBuffer
          rw [Stream.writeOut_host]
          exact SystemCall.lineBuffer_write _ bytes host

theorem Stream.heldBack_flush {stream other : Stream} (different : other ≠ stream) (host : Host) :
    (stream.flush host).2.heldBack other = host.heldBack other := by
  cases other with
  | stderr => rfl
  | stdout =>
      cases stream with
      | stdout => exact absurd rfl different
      | stderr => rfl

/-- Before anything is written, what is held back stays so. -/
theorem Stream.Arrives.initially (host : Host) (stream : Stream) :
    stream.Arrives (host.heldBack stream) [] [] (host.heldBack stream) := by
  cases stream with
  | stdout => exact List.nil_append _
  | stderr => exact ⟨rfl, rfl⟩

theorem Stream.Arrives.unwritten (host : Host) (stream : Stream) :
    stream.Arrives (host.heldBack stream) [⟨.process, []⟩] [] (host.heldBack stream) := by
  cases stream with
  | stdout => exact (List.append_nil _).symm
  | stderr => exact ⟨rfl, rfl⟩

/-- Every stream. -/
abbrev Stream.Each : Stream → Prop :=
  fun _ => True

/-- Of what was written since the process held back `held` to the streams that flow, these
have taken what has arrived, and the process holds back the rest. -/
def Host.Ledger (flows : Stream → Prop) (takes : (Stream → Bytes) → Host → Prop)
    (held : Stream → Bytes) (pieces : Stream → List Piece) (host : Host) : Prop :=
  ∃ taken, takes taken host ∧
    ∀ stream : Stream, flows stream →
      stream.Arrives (held stream) (pieces stream) (taken stream) (host.heldBack stream)

/-- Hosts of which the streams that flow take whatever is written to them; `takes taken` says
what they have taken so far, and does not depend on the other streams. -/
structure Sink (flows : Stream → Prop) (takes : (Stream → Bytes) → Host → Prop) : Prop where
  writes : ∀ {taken host} {stream : Stream} (bytes : Bytes), flows stream → takes taken host →
    (SystemCall.write stream.number bytes host).1 = .ok () ∧
      takes (fun other => taken other ++ stream.only bytes other)
        (SystemCall.write stream.number bytes host).2
  strays : ∀ {taken host} {stream : Stream} (bytes : Bytes), ¬ flows stream → takes taken host →
    takes taken (SystemCall.write stream.number bytes host).2
  buffers : ∀ {taken host} (lineBuffer : Bytes), takes taken host →
    takes taken { host with lineBuffer }

/-- A sink stays one when its hosts keep something else, too. -/
theorem Sink.keeping {flows : Stream → Prop} {takes : (Stream → Bytes) → Host → Prop}
    (sink : Sink flows takes) {kept : Host → Prop}
    (writes : ∀ {taken host} (stream : Stream) (bytes : Bytes), takes taken host → kept host →
      kept (SystemCall.write stream.number bytes host).2)
    (buffers : ∀ {host} (lineBuffer : Bytes), kept host → kept { host with lineBuffer }) :
    Sink flows fun taken host => takes taken host ∧ kept host where
  writes bytes flowing := by
    rintro ⟨taking, keeps⟩
    obtain ⟨succeeded, took⟩ := sink.writes bytes flowing taking
    exact ⟨succeeded, took, writes _ bytes taking keeps⟩
  strays bytes stray := by
    rintro ⟨taking, keeps⟩
    exact ⟨sink.strays bytes stray taking, writes _ bytes taking keeps⟩
  buffers lineBuffer := fun ⟨taking, keeps⟩ =>
    ⟨sink.buffers lineBuffer taking, buffers lineBuffer keeps⟩

namespace Sink

variable {flows : Stream → Prop} {takes : (Stream → Bytes) → Host → Prop}
  {taken : Stream → Bytes} {held : Bytes}

/-- Behind a line buffer that held `held`, the process wrote `more` to standard
output: the streams have taken a front part, and the rest is in the line buffer. -/
def Passes (takes : (Stream → Bytes) → Host → Prop) (taken : Stream → Bytes)
    (held more : Bytes) (host : Host) : Prop :=
  ∃ early late, early ++ late = held ++ more ∧
    takes (fun stream => taken stream ++ Stream.stdout.only early stream) host ∧
    host.lineBuffer = late

theorem Passes.of_kept {more : Bytes} {host : Host} (taking : takes taken host)
    (buffered : host.lineBuffer = held ++ more) : Passes takes taken held more host :=
  ⟨[], held ++ more, rfl, by simpa using taking, buffered⟩

theorem Passes.of_taken {more : Bytes} {host : Host}
    (taking : takes (fun stream => taken stream ++ Stream.stdout.only (held ++ more) stream) host)
    (empty : host.lineBuffer = []) : Passes takes taken held more host :=
  ⟨held ++ more, [], List.append_nil _, taking, empty⟩

theorem Passes.trans {first second early late : Bytes} {host : Host}
    (split : early ++ late = held ++ first)
    (passes : Passes takes (fun stream => taken stream ++ Stream.stdout.only early stream) late
      second host) : Passes takes taken held (first ++ second) host := by
  rcases passes with ⟨next, last, nextSplit, taking, buffered⟩
  refine ⟨early ++ next, last, ?_, ?_, buffered⟩
  · rw [List.append_assoc, nextSplit, ← List.append_assoc, split, List.append_assoc]
  · simpa [List.append_assoc] using taking

section

variable (sink : Sink flows takes) {stream : Stream}

include sink

/-- Writing out succeeds, past the line buffer. -/
theorem writeOut (flowing : flows stream) (bytes : Bytes) :
    Ensures (fun host => takes taken host ∧ host.lineBuffer = held) (stream.writeOut bytes)
      fun written host => written = true ∧
        takes (fun other => taken other ++ stream.only bytes other) host ∧
        host.lineBuffer = held := by
  rintro host ⟨taking, rfl⟩
  obtain ⟨succeeded, took⟩ := sink.writes bytes flowing taking
  rw [Stream.writeOut, Action.bind_apply, succeeded]
  exact ⟨rfl, took, SystemCall.lineBuffer_write stream.number bytes host⟩

/-- What is written to a stream that does not flow makes no difference to those that do. -/
theorem letsWrite (stray : ¬ flows stream) :
    (Discipline.preserving (takes taken)).LetsWrite stream where
  write bytes _ taking := ⟨fun _ => sink.strays bytes stray taking, trivial⟩
  lineBuffer _ lineBuffer := sink.buffers lineBuffer

end

section

variable (sink : Sink flows takes) (flowing : flows .stdout)

include sink flowing

theorem flushLines :
    Ensures (fun host => takes taken host ∧ host.lineBuffer = held) Stream.flushLines
      fun written host => written = true ∧
        takes (fun other => taken other ++ Stream.stdout.only held other) host ∧
        host.lineBuffer = [] := by
  rintro host ⟨taking, rfl⟩
  rw [Stream.flushLines, Action.bind_apply, Action.get_apply]
  by_cases empty : host.lineBuffer = []
  · dsimp only
    rw [if_pos empty]
    exact ⟨rfl, by simpa [empty] using taking, empty⟩
  · obtain ⟨succeeded, took, -⟩ := sink.writeOut flowing host.lineBuffer host ⟨taking, rfl⟩
    simp only [empty, if_false, Action.bind_apply, succeeded]
    exact ⟨rfl, sink.buffers [] took, rfl⟩

theorem bufferLine (bytes : Bytes) :
    Ensures (fun host => takes taken host ∧ host.lineBuffer = held) (Stream.bufferLine bytes)
      fun written host => written = true ∧ Passes takes taken held bytes host := by
  rintro host ⟨taking, rfl⟩
  rw [Stream.bufferLine, Action.bind_apply, Action.get_apply]
  dsimp only
  by_cases fits : host.lineBuffer.length + bytes.length < lineBufferCapacity
  · rw [if_pos fits]
    exact ⟨rfl, .of_kept (sink.buffers _ taking) rfl⟩
  · rw [if_neg fits]
    by_cases exceeds : lineBufferCapacity < host.lineBuffer.length + bytes.length
    · obtain ⟨succeeded, took, empty⟩ := sink.flushLines flowing host ⟨taking, rfl⟩
      simp only [if_pos exceeds, Action.bind_apply, succeeded, Bool.not_true]
      by_cases large : lineBufferCapacity ≤ bytes.length
      · obtain ⟨written, both, stillEmpty⟩ := sink.writeOut flowing bytes _ ⟨took, empty⟩
        rw [if_pos large]
        exact ⟨written, .of_taken (by simpa using both) stillEmpty⟩
      · rw [if_neg large]
        refine ⟨rfl, host.lineBuffer, bytes, rfl, sink.buffers _ took, ?_⟩
        simp [empty]
    · simp only [if_neg exceeds, Action.bind_apply, Action.pure_apply, Bool.not_true]
      by_cases large : lineBufferCapacity ≤ bytes.length
      · -- the line buffer is filled exactly, so that it was empty
        have empty : host.lineBuffer = [] := List.eq_nil_of_length_eq_zero (by omega)
        obtain ⟨written, took, kept⟩ := sink.writeOut flowing bytes host ⟨taking, rfl⟩
        rw [if_pos large]
        exact ⟨written, .of_taken (by simpa [empty] using took) (kept.trans empty)⟩
      · rw [if_neg large]
        exact ⟨rfl, .of_kept (sink.buffers _ taking) rfl⟩

theorem writeComplete (lines : Bytes) :
    Ensures (fun host => takes taken host ∧ host.lineBuffer = held) (Stream.writeComplete lines)
      fun written host => written = true ∧ Passes takes taken held lines host := by
  rintro host ⟨taking, rfl⟩
  rw [Stream.writeComplete, Action.bind_apply, Action.get_apply]
  dsimp only
  by_cases none : lines = []
  · subst none
    rw [if_pos rfl]
    by_cases complete : host.lineBuffer.getLast? = some Bytes.newline
    · obtain ⟨succeeded, took, empty⟩ := sink.flushLines flowing host ⟨taking, rfl⟩
      rw [if_pos complete]
      exact ⟨succeeded, .of_taken (by simpa using took) empty⟩
    · rw [if_neg complete]
      exact ⟨rfl, .of_kept taking (List.append_nil _).symm⟩
  · rw [if_neg none]
    by_cases empty : host.lineBuffer = []
    · obtain ⟨written, took, kept⟩ := sink.writeOut flowing lines host ⟨taking, rfl⟩
      rw [if_pos empty]
      exact ⟨written, .of_taken (by simpa [empty] using took) (kept.trans empty)⟩
    · obtain ⟨buffered, early, late, split, took, kept⟩ :=
        sink.bufferLine flowing lines host ⟨taking, rfl⟩
      obtain ⟨succeeded, all, flushed⟩ := sink.flushLines flowing _ ⟨took, kept⟩
      simp only [if_neg empty, Action.bind_apply, buffered, if_true]
      refine ⟨succeeded, .of_taken ?_ flushed⟩
      rw [← split]
      simpa using all

theorem writeLines (bytes : Bytes) :
    Ensures (fun host => takes taken host ∧ host.lineBuffer = held) (Stream.writeLines bytes)
      fun _ => Passes takes taken held bytes := by
  intro host taking
  obtain ⟨complete, early, late, split, took, kept⟩ := sink.writeComplete flowing _ host taking
  obtain ⟨-, passes⟩ := sink.bufferLine flowing (Bytes.splitLastLine bytes).2 _ ⟨took, kept⟩
  simp only [Stream.writeLines, Action.bind_apply]
  rw [if_pos complete]
  have whole := Passes.trans split passes
  rwa [Bytes.splitLastLine_append] at whole

end

/-! ## The ledger -/

section

variable (sink : Sink flows takes) {pieces : Stream → List Piece} {before : Stream → Bytes}

include sink

/-- What the process writes is added to the ledger. -/
theorem writeStream (stream : Stream) (bytes : Bytes) :
    Ensures (Host.Ledger flows takes before pieces) (stream.write bytes) fun _ =>
      Host.Ledger flows takes before fun other =>
        pieces other ++ stream.only [⟨.process, bytes⟩] other := by
  rintro host ⟨taken, taking, arrives⟩
  by_cases flowing : flows stream
  · cases stream with
    | stdout =>
        obtain ⟨early, late, split, took, kept⟩ := sink.writeLines flowing bytes host ⟨taking, rfl⟩
        have written := ArrivesBuffered.written (arrives .stdout flowing) bytes
        refine ⟨_, took, fun other isFlowing => ?_⟩
        cases other with
        | stdout =>
            rw [show host.heldBack .stdout = host.lineBuffer from rfl, ← split] at written
            simpa only [Stream.only_self, Host.heldBack, Stream.Arrives, kept] using
              show ArrivesBuffered _ _ _ _ from kept.symm ▸ written.flushed
        | stderr =>
            simpa [Stream.only, Stream.Arrives, Host.heldBack] using arrives .stderr isFlowing
    | stderr =>
        obtain ⟨-, took, kept⟩ := sink.writeOut flowing bytes host ⟨taking, rfl⟩
        refine ⟨_, took, fun other isFlowing => ?_⟩
        cases other with
        | stdout =>
            have same : (Stream.stderr.write bytes host).2.heldBack .stdout =
                host.heldBack .stdout := kept
            simpa [Stream.only, Stream.Arrives, same] using arrives .stdout isFlowing
        | stderr =>
            have arrived := (arrives .stderr isFlowing).1
            simp [Stream.Arrives, Host.heldBack, arrived]
  · have stillTaking := ((sink.letsWrite flowing).writeStream bytes).preserved taking
    refine ⟨taken, stillTaking, fun other isFlowing => ?_⟩
    have different : other ≠ stream := fun same => flowing (same ▸ isFlowing)
    simp only [Stream.only_of_ne different, List.append_nil, Stream.heldBack_write different]
    exact arrives other isFlowing

/-- Flushing passes on what was held back. -/
theorem flush (stream : Stream) :
    Ensures (Host.Ledger flows takes before pieces) stream.flush fun _ host =>
      Host.Ledger flows takes before pieces host ∧ (flows stream → host.heldBack stream = []) := by
  rintro host ⟨taken, taking, arrives⟩
  by_cases flowing : flows stream
  · cases stream with
    | stdout =>
        obtain ⟨-, took, empty⟩ := sink.flushLines flowing host ⟨taking, rfl⟩
        refine ⟨⟨_, took, fun other isFlowing => ?_⟩, fun _ => empty⟩
        cases other with
        | stdout =>
            have flushed : ArrivesBuffered _ _ _ _ := arrives .stdout isFlowing
            rw [← List.append_nil (host.heldBack .stdout)] at flushed
            have emptied : (Stream.stdout.flush host).2.heldBack .stdout = [] := empty
            rw [emptied, Stream.only_self]
            exact flushed.flushed
        | stderr =>
            simpa [Stream.only, Stream.Arrives, Host.heldBack] using arrives .stderr isFlowing
    | stderr => exact ⟨⟨taken, taking, arrives⟩, fun _ => rfl⟩
  · have stillTaking := (sink.letsWrite flowing).flush.preserved taking
    refine ⟨⟨taken, stillTaking, fun other isFlowing => ?_⟩,
      fun isFlowing => absurd isFlowing flowing⟩
    have different : other ≠ stream := fun same => flowing (same ▸ isFlowing)
    rw [Stream.heldBack_flush different]
    exact arrives other isFlowing

/-- What a program writes to a stream that it inherits is added to the ledger. -/
theorem writeInherited (stream : Stream) (bytes : Bytes) {host : Host}
    (ledger : Host.Ledger flows takes before pieces host) {file : OpenFile}
    (inherited : host.table.get? stream.number = some ⟨file, true⟩) :
    Host.Ledger flows takes before
      (fun other => pieces other ++ stream.only [⟨.program, bytes⟩] other)
      (Spawn.writeInherited stream bytes host).2 := by
  have writes : (Spawn.writeInherited stream bytes host).2 =
      (SystemCall.write stream.number bytes host).2 := by
    simp [Spawn.writeInherited, inherited]
  rcases ledger with ⟨taken, taking, arrives⟩
  have same : (SystemCall.write stream.number bytes host).2.heldBack = host.heldBack :=
    Host.heldBack_congr (SystemCall.lineBuffer_write stream.number bytes host)
  rw [writes]
  by_cases flowing : flows stream
  · obtain ⟨-, took⟩ := sink.writes bytes flowing taking
    refine ⟨_, took, fun other isFlowing => ?_⟩
    rw [same]
    by_cases isOther : other = stream
    · subst isOther
      cases other with
      | stdout =>
          simpa [Stream.Arrives] using ArrivesBuffered.inherited (arrives .stdout isFlowing) bytes
      | stderr =>
          have arrived := (arrives .stderr isFlowing).1
          simp [Stream.Arrives, Host.heldBack, arrived]
    · simpa [Stream.only, isOther] using arrives other isFlowing
  · refine ⟨taken, sink.strays bytes flowing taking, fun other isFlowing => ?_⟩
    have different : other ≠ stream := fun equal => flowing (equal ▸ isFlowing)
    simp only [same, Stream.only_of_ne different, List.append_nil]
    exact arrives other isFlowing

end

end Sink

end CompileDriver
