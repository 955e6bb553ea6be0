import CompileDriver.Proofs.Guard.Restore
import CompileDriver.Proofs.Host.Diverted

/-!
# The stages of starting a capture

How far a capture gets depends on refusals and limits, but what each step leads to
when it succeeds depends on little: the descriptors, the number of pipes and what
the line buffer holds.  A `Stage` consists of these, and `Reaches` says that a
host is at a stage while none of the new pipes has been written to.

Starting a capture from a stage leads to one final stage, `Stage.tapped`, however
the readers of other pipes move and whether or not the capture polls.
-/

namespace CompileDriver

/-- Whether writing to a number takes bytes away: only a pipe that nobody can
read keeps them waiting. -/
def DescriptorTable.accepts (table : DescriptorTable) (number : Nat) : Bool :=
  match table.file? number with
  | some (.pipeWriter pipe) => table.refersTo (.pipeReader pipe)
  | _ => true

theorem DescriptorTable.accepts_iff (table : DescriptorTable) (number : Nat) :
    table.accepts number = true ↔ ∀ pipe, table.file? number = some (.pipeWriter pipe) →
      ∃ other, table.file? other = some (.pipeReader pipe) := by
  unfold accepts
  split
  · rename_i pipe found
    rw [table.refersTo_iff, found]
    constructor
    · rintro readable _ ⟨⟩
      exact readable
    · exact fun readable => readable pipe rfl
  · rename_i file notWriter
    simp only [true_iff]
    exact fun pipe found => absurd found (notWriter pipe)

/-- An open number that stays what it was still takes bytes away. -/
theorem DescriptorTable.accepts_kept {before after : DescriptorTable} {number : Nat}
    (accepts : before.accepts number = true) (isOpen : before.file? number ≠ none)
    (same : ∀ other, before.file? other ≠ none → after.file? other = before.file? other) :
    after.accepts number = true := by
  rw [accepts_iff] at accepts ⊢
  intro pipe found
  rw [same number isOpen] at found
  obtain ⟨reader, reads⟩ := accepts pipe found
  exact ⟨reader, (same reader (by simp [reads])).trans reads⟩

/-- Flushing standard output leaves nothing behind: nothing is held back, or its target takes
it away. -/
def Host.CanFlush (host : Host) : Prop :=
  host.lineBuffer = [] ∨ host.table.accepts Stream.stdout.number = true

/-- What starting a capture depends on. -/
structure Stage where
  table : DescriptorTable
  /-- How many pipes there are. -/
  pipes : Nat
  /-- What the line buffer holds. -/
  lineBuffer : Bytes

namespace Stage

/-- The numbers of the ends of the next pipe. -/
def pipeEnds (stage : Stage) : Nat × Nat :=
  stage.table.pipeEnds stage.pipes

/-- With a further pipe. -/
def pipe (stage : Stage) : Stage :=
  { stage with table := stage.table.withPipe stage.pipes, pipes := stage.pipes + 1 }

/-- After a flush of a stream: standard output is left with an empty line buffer
when it accepts what the buffer held. -/
def flush (stage : Stage) : Stream → Stage
  | .stdout =>
      { stage with
        lineBuffer := if stage.table.accepts Stream.stdout.number then [] else stage.lineBuffer }
  | .stderr => stage

@[simp]
theorem table_flush (stage : Stage) (stream : Stream) :
    (stage.flush stream).table = stage.table := by
  cases stream <;> rfl

/-- With a second descriptor for a file. -/
def copy (stage : Stage) (file : OpenFile) : Stage :=
  { stage with table := stage.table.occupy ⟨file, false⟩ }

/-- With the number `target` pointing at the file of `source`. -/
def redirect (stage : Stage) (source target : Nat) : Stage :=
  { stage with table := stage.table.pointTo source target }

end Stage

namespace Host

/-- The host is at a stage.  The pipes from `bound` on are empty, and the readers
read from `sources`. -/
structure Reaches (bound : Nat) (sources : List Nat) (stage : Stage) (host : Host) : Prop where
  table : host.table = stage.table
  pipes : host.pipes.length = stage.pipes
  lineBuffer : host.lineBuffer = stage.lineBuffer
  sound : host.NoReadFailures
  threads : ∀ reader ∈ host.readers, reader.thread < host.threadsStarted
  sources : ∀ reader ∈ host.readers, reader.source ∈ sources
  fresh : ∀ pipe, bound ≤ pipe → host.queue pipe = []

namespace Reaches

variable {bound : Nat} {sources : List Nat} {stage : Stage} {host after : Host}

theorem readersRan (reaches : Reaches bound sources stage host) (ran : ReadersRan host after) :
    Reaches bound sources stage after where
  table := ran.table.trans reaches.table
  pipes := ran.pipe_count.trans reaches.pipes
  lineBuffer := ran.lineBuffer.trans reaches.lineBuffer
  sound := reaches.sound.later ran.schedule_suffix
  threads reader member := by
    obtain ⟨earlier, present, same⟩ := ran.identities reader member
    have started : after.threadsStarted = host.threadsStarted := by rw [ran.rest]
    rw [started, ← (Prod.mk.inj same).1]
    exact reaches.threads earlier present
  sources reader member := by
    obtain ⟨earlier, present, same⟩ := ran.identities reader member
    exact (Prod.mk.inj same).2 ▸ reaches.sources earlier present
  fresh pipe new := List.eq_nil_of_suffix_nil (reaches.fresh pipe new ▸ ran.queue_suffix pipe)

theorem takeTurn (reaches : Reaches bound sources stage host) :
    Reaches bound sources stage host.takeTurn :=
  reaches.readersRan (readersRan_takeTurn host)

theorem note (reaches : Reaches bound sources stage host) (event : Event) :
    Reaches bound sources stage (host.note event) :=
  ⟨reaches.table, reaches.pipes, reaches.lineBuffer, reaches.sound, reaches.threads,
    reaches.sources, reaches.fresh⟩

theorem endCall (reaches : Reaches bound sources stage host) :
    Reaches bound sources stage host.endCall :=
  (reaches.note .systemCall).takeTurn

theorem retable (reaches : Reaches bound sources stage host) (table : DescriptorTable) :
    Reaches bound sources { stage with table } { host with table } :=
  ⟨rfl, reaches.pipes, reaches.lineBuffer, reaches.sound, reaches.threads, reaches.sources,
    reaches.fresh⟩

theorem refused (reaches : Reaches bound sources stage host)
    (refusals : List (Option OsError)) : Reaches bound sources stage { host with refusals } :=
  ⟨reaches.table, reaches.pipes, reaches.lineBuffer, reaches.sound, reaches.threads,
    reaches.sources, reaches.fresh⟩

theorem fed (reaches : Reaches bound sources stage host) {pipe : Nat} (old : pipe < bound)
    (fed : Fed pipe host after) : Reaches bound sources stage after where
  table := fed.table.trans reaches.table
  pipes := fed.pipe_count.trans reaches.pipes
  lineBuffer := by
    rw [fed.rest]
    exact reaches.lineBuffer
  sound := reaches.sound.later fed.schedule_suffix
  threads reader member := by
    obtain ⟨earlier, present, same⟩ := fed.identities reader member
    have started : after.threadsStarted = host.threadsStarted := by rw [fed.rest]
    rw [started, ← (Prod.mk.inj same).1]
    exact reaches.threads earlier present
  sources reader member := by
    obtain ⟨earlier, present, same⟩ := fed.identities reader member
    exact (Prod.mk.inj same).2 ▸ reaches.sources earlier present
  fresh other new := List.eq_nil_of_suffix_nil
    (reaches.fresh other new ▸ fed.queue_suffix other (by omega))

theorem deliver (reaches : Reaches bound sources stage host) {file : OpenFile}
    (old : ∀ pipe, file = .pipeWriter pipe → pipe < bound) (bytes : Bytes) :
    Reaches bound sources stage (host.deliver file bytes).2 := by
  rcases host.deliver_cases file bytes with ⟨pipe, written, fed⟩ | ⟨_, _, ran⟩
  · rw [fed]
    exact reaches.fed (old pipe written) (fed_feed pipe host bytes)
  · apply readersRan _ ran
    exact ⟨reaches.table, reaches.pipes, reaches.lineBuffer, reaches.sound, reaches.threads,
      reaches.sources, reaches.fresh⟩

end Reaches

end Host

/-- Something holds after an action that fails, something else after one that
succeeds. -/
def Outcome {α ε : Type} (failed : Host → Prop) (succeeded : α → Host → Prop) :
    Except ε α → Host → Prop
  | .error _, host => failed host
  | .ok value, host => succeeded value host

/-- Nothing is said about an action that fails. -/
abbrev OnSuccess {α ε : Type} : (α → Host → Prop) → Except ε α → Host → Prop :=
  Outcome fun _ => True

namespace Ensures

variable {bound : Nat} {sources : List Nat} {stage : Stage}

/-- Writing out fails for a pipe that nobody can read only. -/
theorem writeOut_reaches (stream : Stream) (bytes : Bytes)
    (old : ∀ pipe, stage.table.file? stream.number = some (.pipeWriter pipe) → pipe < bound) :
    Ensures (Host.Reaches bound sources stage) (stream.writeOut bytes) fun written host =>
      written = stage.table.accepts stream.number ∧ host.Reaches bound sources stage := by
  intro host reaches
  simp only [Stream.writeOut, Action.bind_apply]
  cases found : host.table.file? stream.number with
  | none =>
      rw [SystemCall.write_closed found]
      rw [reaches.table] at found
      exact ⟨by simp [DescriptorTable.accepts, found], reaches.takeTurn⟩
  | some file =>
      rw [SystemCall.write_open found]
      rw [reaches.table] at found
      have isOld (pipe : Nat) (same : file = .pipeWriter pipe) : pipe < bound :=
        old pipe (same ▸ found)
      have reached := reaches.deliver isOld bytes
      simp only [DescriptorTable.accepts, found]
      cases file with
      | initial stream => exact ⟨rfl, reached.note _⟩
      | emptyInput => exact ⟨rfl, reached⟩
      | pipeReader pipe => exact ⟨rfl, reached⟩
      | discard opening => exact ⟨rfl, reached.note _⟩
      | entry opening place => exact ⟨rfl, reached.note _⟩
      | pipeWriter pipe =>
          dsimp only
          rw [← reaches.table]
          cases readable : host.table.refersTo (.pipeReader pipe) with
          | true =>
              simp only [Host.deliver, readable, if_true] at reached ⊢
              exact ⟨rfl, reached.note _⟩
          | false =>
              simp only [Host.deliver, readable] at reached ⊢
              exact ⟨rfl, reached⟩

theorem flushLines_reaches
    (old : ∀ pipe, stage.table.file? Stream.stdout.number = some (.pipeWriter pipe) →
      pipe < bound) :
    Ensures (Host.Reaches bound sources stage) Stream.flushLines fun _ =>
      Host.Reaches bound sources (stage.flush .stdout) := by
  intro host reaches
  by_cases empty : host.lineBuffer = []
  · have unchanged : stage.flush .stdout = stage := by
      have held : stage.lineBuffer = [] := reaches.lineBuffer ▸ empty
      rw [Stage.flush, held, ite_self]
      exact held ▸ rfl
    rw [unchanged]
    simpa [Stream.flushLines, empty] using reaches
  · obtain ⟨accepts, reached⟩ := writeOut_reaches .stdout host.lineBuffer old host reaches
    rw [Stream.flushLines, Action.bind_apply, Action.get_apply]
    dsimp only
    rw [if_neg empty, Action.bind_apply, accepts]
    cases taken : stage.table.accepts Stream.stdout.number with
    | true =>
        have flushed : stage.flush .stdout = { stage with lineBuffer := [] } := by
          simp [Stage.flush, taken]
        rw [flushed]
        exact ⟨reached.table, reached.pipes, rfl, reached.sound, reached.threads, reached.sources,
          reached.fresh⟩
    | false =>
        have unchanged : stage.flush .stdout = stage := by simp [Stage.flush, taken]
        rw [unchanged]
        exact reached

/-- A call that acquires something makes its change, once it is granted, and nothing
otherwise. -/
theorem acquire_outcome {α : Type} {call : Host → Except OsError (α × Host)}
    {pre : Host → Prop} {post : α → Host → Prop}
    (refused : ∀ host refusals, pre host → pre { host with refusals })
    (ended : ∀ host, pre host → pre host.endCall)
    (closed : ∀ value host, post value host → post value host.endCall)
    (sound : ∀ host value next, pre host → call host = .ok (value, next) → post value next) :
    Ensures pre (SystemCall.acquire call) (Outcome pre post) := by
  intro host holds
  obtain ⟨refusals, ⟨error, failed⟩ | ⟨value, next, done, granted⟩⟩ :=
    SystemCall.acquire_cases call host
  · rw [failed]
    exact ended _ (refused host refusals holds)
  · rw [granted]
    exact closed value next (sound _ value next (refused host refusals holds) done)

theorem acquire_reaches {α : Type} {call : Host → Except OsError (α × Host)}
    {post : α → Host → Prop} (closed : ∀ value host, post value host → post value host.endCall)
    (sound : ∀ host value next, Host.Reaches bound sources stage host →
      call host = .ok (value, next) → post value next) :
    Ensures (Host.Reaches bound sources stage) (SystemCall.acquire call) (OnSuccess post) := by
  have attempted : Ensures (Host.Reaches bound sources stage) (SystemCall.acquire call)
      (Outcome (Host.Reaches bound sources stage) post) :=
    acquire_outcome (fun _ refusals reaches => reaches.refused refusals)
      (fun _ reaches => reaches.endCall) closed sound
  refine attempted.weaken ?_
  rintro (error | value) host reached
  · trivial
  · exact reached

theorem pipe_reaches :
    Ensures (Host.Reaches bound sources stage) SystemCall.pipe
      (OnSuccess fun ends host => ends = stage.pipeEnds ∧
        host.Reaches bound sources stage.pipe) := by
  refine acquire_reaches (fun _ _ ⟨same, reaches⟩ => ⟨same, reaches.endCall⟩)
    fun host ends next reaches done => ?_
  obtain ⟨rfl, rfl⟩ := Host.makePipe_ok done
  rw [reaches.table, reaches.pipes]
  refine ⟨rfl, rfl, by simp [Stage.pipe, reaches.pipes], reaches.lineBuffer, reaches.sound,
    reaches.threads, reaches.sources, fun pipe new => ?_⟩
  have empty := reaches.fresh pipe new
  simp only [Host.queue, List.getD_eq_getElem?_getD, List.getElem?_append] at empty ⊢
  split
  · exact empty
  · cases pipe - host.pipes.length <;> rfl

theorem duplicate_reaches (number : Nat) :
    Ensures (Host.Reaches bound sources stage) (SystemCall.duplicate number)
      (OnSuccess fun copy host => copy = stage.table.lowestFree ∧
        ∃ file, stage.table.file? number = some file ∧
          host.Reaches bound sources (stage.copy file)) := by
  refine acquire_reaches
    (fun _ _ ⟨same, file, found, reaches⟩ => ⟨same, file, found, reaches.endCall⟩)
    fun host copy next reaches done => ?_
  obtain ⟨descriptor, found, rfl, rfl⟩ := Host.duplicate_ok done
  rw [reaches.table] at found ⊢
  exact ⟨rfl, descriptor.file, stage.table.file?_of_get? found, reaches.retable _⟩

theorem redirect_reaches (source target : Nat) :
    Ensures (Host.Reaches bound sources stage) (SystemCall.redirect source target)
      (OnSuccess fun _ host => host.Reaches bound sources (stage.redirect source target)) := by
  refine acquire_reaches (fun _ _ reaches => reaches.endCall) fun host value next reaches done => ?_
  obtain ⟨-, rfl⟩ := Host.redirect_ok done
  rw [reaches.table]
  exact reaches.retable _

theorem flush_reaches (stream : Stream)
    (old : stream = .stdout → ∀ pipe,
      stage.table.file? Stream.stdout.number = some (.pipeWriter pipe) → pipe < bound) :
    Ensures (Host.Reaches bound sources stage) stream.flush fun _ =>
      Host.Reaches bound sources (stage.flush stream) := by
  cases stream with
  | stdout => exact (flushLines_reaches (old rfl)).discarded
  | stderr => exact .value fun _ reaches => reaches

/-- Saving a stream takes a number for a copy of its descriptor. -/
theorem save_reaches (stream : Stream)
    (old : stream = .stdout → ∀ pipe,
      stage.table.file? Stream.stdout.number = some (.pipeWriter pipe) → pipe < bound) :
    Ensures (Host.Reaches bound sources stage) (Scope.save stream)
      (OnSuccess fun scope host => scope = { stream, saved := some stage.table.lowestFree } ∧
        ∃ file, stage.table.file? stream.number = some file ∧
          host.Reaches bound sources ((stage.flush stream).copy file)) := by
  refine (flush_reaches stream old).bind fun _ => (duplicate_reaches stream.number).bind ?_
  rintro (error | copy)
  · exact .value fun _ _ => trivial
  · refine .value ?_
    rintro host ⟨rfl, file, found, reaches⟩
    rw [Stage.table_flush] at found ⊢
    exact ⟨rfl, file, found, reaches⟩

end Ensures

/-! ## Taps -/

namespace Host

/-- The host is at a stage, and some threads read from pipes that have not been
written to. -/
structure Taps (bound : Nat) (sources : List Nat) (stage : Stage) (running : List Channel)
    (host : Host) : Prop where
  reaches : host.Reaches bound sources stage
  carries : ∀ channel ∈ running, host.Carries channel []

namespace Taps

variable {bound : Nat} {sources : List Nat} {stage : Stage} {running : List Channel} {host : Host}

theorem endCall (taps : Taps bound sources stage running host) :
    Taps bound sources stage running host.endCall where
  reaches := taps.reaches.endCall
  carries channel member := carries_endCall (taps.carries channel member) taps.reaches.sound

theorem askToStop (taps : Taps bound sources stage running host) (thread : Nat) :
    Taps bound sources stage running (host.askToStop thread) where
  reaches :=
    { table := taps.reaches.table
      pipes := taps.reaches.pipes
      lineBuffer := taps.reaches.lineBuffer
      sound := taps.reaches.sound
      threads := by
        intro reader member
        obtain ⟨earlier, present, rfl⟩ := List.mem_map.mp member
        have known := taps.reaches.threads earlier present
        split <;> exact known
      sources := by
        intro reader member
        obtain ⟨earlier, present, rfl⟩ := List.mem_map.mp member
        have known := taps.reaches.sources earlier present
        split <;> exact known
      fresh := taps.reaches.fresh }
  carries channel member := carries_askToStop (taps.carries channel member) thread

theorem refused (taps : Taps bound sources stage running host)
    (refusals : List (Option OsError)) :
    Taps bound sources stage running { host with refusals } where
  reaches := taps.reaches.refused refusals
  carries channel member :=
    have carries := taps.carries channel member
    ⟨carries.known, carries.source, carries.only, carries.reader⟩

/-- A new thread that reads from a pipe which nobody reads. -/
theorem startReader (taps : Taps bound sources stage running host) {source thread pipe : Nat}
    {next : Host} (done : host.startReader source = .ok (thread, next)) (new : bound ≤ pipe)
    (known : pipe < stage.pipes) (found : stage.table.file? source = some (.pipeReader pipe))
    (unread : ∀ other ∈ sources, stage.table.file? other ≠ some (.pipeReader pipe))
    (apart : ∀ channel ∈ running, channel.pipe ≠ pipe) :
    Taps bound (source :: sources) stage ({ pipe, thread, source } :: running) next ∧
      ∀ channel ∈ running, channel.thread ≠ thread := by
  have reaches := taps.reaches
  obtain ⟨rfl, rfl⟩ := Host.startReader_ok done
  rw [← reaches.table] at found unread
  have carries : ∀ channel ∈ { pipe, thread := host.threadsStarted, source } :: running,
      (host.withReader host.threadsStarted source).Carries channel [] := by
    intro channel member
    rcases List.mem_cons.mp member with rfl | earlier
    · exact carries_withReader (reaches.pipes ▸ known) found (reaches.fresh pipe new)
        (fun reader present => unread _ (reaches.sources reader present))
        fun reader present => Nat.ne_of_lt (reaches.threads reader present)
    · refine carries_withReader_other (taps.carries channel earlier) _ ?_
      rw [found]
      simpa using (apart channel earlier).symm
  refine ⟨⟨⟨reaches.table, reaches.pipes, reaches.lineBuffer, reaches.sound, ?_, ?_,
    reaches.fresh⟩, fun channel member => ?_⟩, fun channel member => ?_⟩
  · intro reader member
    rcases List.mem_append.mp member with earlier | isNew
    · exact Nat.lt_succ_of_lt (reaches.threads reader earlier)
    · rw [List.mem_singleton.mp isNew]
      exact Nat.lt_succ_self _
  · intro reader member
    rcases List.mem_append.mp member with earlier | isNew
    · exact List.mem_cons_of_mem _ (reaches.sources reader earlier)
    · rw [List.mem_singleton.mp isNew]
      exact List.mem_cons_self
  · have started := carries channel member
    exact ⟨started.known, started.source, started.only, started.reader⟩
  · obtain ⟨reader, isReader, -⟩ := (taps.carries channel member).reader
    obtain ⟨present, named⟩ := reader?_eq_some isReader
    exact named ▸ Nat.ne_of_lt (reaches.threads reader present)

end Taps

end Host

namespace Ensures

variable {bound : Nat} {sources : List Nat} {stage : Stage} {running : List Channel}

/-- A tap is switched to polling at most before its thread is started. -/
theorem startTap_outcome {pre : Host → Prop} {post : Nat → Host → Prop} (tap : Tap)
    (nonblocking : Bool) (refused : ∀ host refusals, pre host → pre { host with refusals })
    (ended : ∀ host, pre host → pre host.endCall)
    (closed : ∀ thread host, post thread host → post thread host.endCall)
    (sound : ∀ host thread next, pre host → host.startReader tap.source = .ok (thread, next) →
      post thread next) :
    Ensures pre (Capture.startTap tap nonblocking) (Outcome pre post) := by
  have started : Ensures pre (SystemCall.startReader tap.source) (Outcome pre post) :=
    acquire_outcome refused ended closed sound
  unfold Capture.startTap
  split
  · have switched : Ensures pre (SystemCall.setPolling tap.source) (Outcome pre fun _ => pre) :=
      acquire_outcome refused ended (fun _ => ended)
        fun _ _ _ holds done => Host.setPolling_ok done ▸ holds
    refine switched.bind fun outcome => ?_
    cases outcome with
    | error error => exact .value fun _ holds => holds
    | ok done => exact started
  · exact started

theorem startTap_reaches (tap : Tap) (nonblocking : Bool) {pipe : Nat} (new : bound ≤ pipe)
    (known : pipe < stage.pipes) (found : stage.table.file? tap.source = some (.pipeReader pipe))
    (unread : ∀ other ∈ sources, stage.table.file? other ≠ some (.pipeReader pipe))
    (apart : ∀ channel ∈ running, channel.pipe ≠ pipe) :
    Ensures (Host.Taps bound sources stage running) (Capture.startTap tap nonblocking)
      (Outcome (Host.Taps bound sources stage running) fun thread host =>
        host.Taps bound (tap.source :: sources) stage
          ({ pipe, thread, source := tap.source } :: running) ∧
          ∀ channel ∈ running, channel.thread ≠ thread) :=
  startTap_outcome tap nonblocking (fun _ refusals taps => taps.refused refusals)
    (fun _ taps => taps.endCall) (fun _ _ ⟨taps, threads⟩ => ⟨taps.endCall, threads⟩)
    fun _ _ _ taps done => taps.startReader done new known found unread apart

end Ensures

end CompileDriver
