import CompileDriver.Host.SystemCall
import CompileDriver.Proofs.Host.Readers

/-!
# Channels

A channel is a pipe with the one thread that reads from it.  `Carries` says that
a channel has taken exactly some bytes so far: what its reader has collected,
followed by what is still in the pipe.  The reader goes on as long as the pipe
can be written to; once nobody can write to it any more it may also have seen
the end, and then nothing is left in the pipe.

Reader threads keep what every channel carries, whatever the order in which they
move, as long as no read fails for good.  Feeding a pipe adds what is fed to the
end of what its channel carries, and joining the reader of a channel that cannot
be written to any more hands out everything that it carries.
-/

namespace CompileDriver

/-- A pipe, the thread that reads from it, and the number of the end that it
reads from. -/
structure Channel where
  pipe : Nat
  thread : Nat
  source : Nat
  deriving Repr, DecidableEq

/-- How far the reader of a pipe can have come that holds `queue`: it goes on
reading unless the pipe is empty and cannot be written to. -/
def ReaderStatus.Fits (status : ReaderStatus) (queue : Bytes) (writable : Bool) : Prop :=
  status = .reading ∨ (status = .finished ∧ queue = [] ∧ writable = false)

namespace Host

/-- No read of the schedule fails for good. -/
def NoReadFailures (host : Host) : Prop :=
  ∀ round ∈ host.schedule, ∀ step ∈ round, ∀ error, step.2 ≠ .fail error

theorem NoReadFailures.later {before after : Host} (sound : before.NoReadFailures)
    (later : after.schedule <:+ before.schedule) : after.NoReadFailures :=
  fun round member => sound round (later.subset member)

/-- Whether anybody can write to a pipe. -/
def isWritable (host : Host) (pipe : Nat) : Bool :=
  host.table.refersTo (.pipeWriter pipe)

/-- The channel has taken exactly `bytes`. -/
structure Carries (host : Host) (channel : Channel) (bytes : Bytes) : Prop where
  known : channel.pipe < host.pipes.length
  source : host.table.file? channel.source = some (.pipeReader channel.pipe)
  /-- Nobody else reads from the pipe. -/
  only : ∀ reader ∈ host.readers, reader.thread = channel.thread ∨
    host.table.file? reader.source ≠ some (.pipeReader channel.pipe)
  reader : ∃ reader, host.reader? channel.thread = some reader ∧
    reader.source = channel.source ∧
    reader.collected ++ host.queue channel.pipe = bytes ∧
    reader.status.Fits (host.queue channel.pipe) (host.isWritable channel.pipe)

namespace Carries

variable {host after : Host} {channel : Channel} {bytes : Bytes}

/-- Readers that run keep everything about a channel but its reader. -/
theorem of_readersRan (carries : host.Carries channel bytes) (ran : ReadersRan host after)
    {more : Bytes}
    (reader : ∃ reader, after.reader? channel.thread = some reader ∧
      reader.source = channel.source ∧
      reader.collected ++ after.queue channel.pipe = more ∧
      reader.status.Fits (after.queue channel.pipe) (host.isWritable channel.pipe)) :
    after.Carries channel more where
  known := ran.pipe_count ▸ carries.known
  source := by rw [ran.table, carries.source]
  only := by
    intro other member
    obtain ⟨earlier, present, same⟩ := ran.identities other member
    have identity := Prod.mk.inj same
    rw [ran.table, ← identity.1, ← identity.2]
    exact carries.only earlier present
  reader := by
    rw [isWritable, ran.table]
    exact reader

end Carries

/-- A move of a reader leaves every pipe alone that it does not read from. -/
theorem queue_moveOutcome (host : Host) {source pipe : Nat}
    (elsewhere : host.table.file? source ≠ some (.pipeReader pipe)) (move : ReaderMove) :
    (host.moveOutcome source move).2.queue pipe = host.queue pipe := by
  cases move with
  | read atMost =>
      simp only [moveOutcome, attempt]
      split
      · rename_i other found
        have different : pipe ≠ other := by
          rintro rfl
          exact elsewhere found
        split
        · split <;> rfl
        · exact host.queue_setQueue_of_ne different _
      · rfl
      · rfl
  | wouldBlock => rfl
  | interrupted => rfl
  | fail error => rfl

@[simp]
theorem queue_setReader (host : Host) (reader : Reader) (pipe : Nat) :
    (host.setReader reader).queue pipe = host.queue pipe :=
  rfl

/-- An attempt of a reader that goes on takes bytes from the front of its pipe
to the end of what it has collected, or sees the end of an empty pipe that
cannot be written to. -/
theorem receive_moveOutcome {host : Host} {pipe : Nat} {reader : Reader} {move : ReaderMove}
    (source : host.table.file? reader.source = some (.pipeReader pipe))
    (known : pipe < host.pipes.length) (reading : reader.status = .reading)
    (sound : ∀ error, move ≠ .fail error) :
    let outcome := host.moveOutcome reader.source move
    (reader.receive outcome.1).collected ++ outcome.2.queue pipe =
        reader.collected ++ host.queue pipe ∧
      (reader.receive outcome.1).status.Fits (outcome.2.queue pipe) (host.isWritable pipe) := by
  intro outcome
  cases move with
  | read atMost =>
      simp only [outcome, moveOutcome, attempt, source]
      cases queued : host.queue pipe with
      | nil =>
          cases writable : host.table.refersTo (.pipeWriter pipe) with
          | true => simp [Reader.receive, reading, queued, ReaderStatus.Fits]
          | false => simp [Reader.receive, reading, queued, ReaderStatus.Fits, isWritable, writable]
      | cons first rest =>
          simp [Reader.receive, reading, ReaderStatus.Fits, host.queue_setQueue known]
  | wouldBlock => simp [outcome, moveOutcome, Reader.receive, reading, ReaderStatus.Fits]
  | interrupted => simp [outcome, moveOutcome, Reader.receive, reading, ReaderStatus.Fits]
  | fail error => exact absurd rfl (sound error)

theorem carries_move_own {host : Host} {channel : Channel} {bytes : Bytes}
    (carries : host.Carries channel bytes) {move : ReaderMove}
    (sound : ∀ error, move ≠ .fail error) :
    (host.move channel.thread move).Carries channel bytes := by
  refine carries.of_readersRan (readersRan_move host channel.thread move) ?_
  obtain ⟨reader, found, source, content, fits⟩ := carries.reader
  have named := (reader?_eq_some found).2
  rcases fits with reading | ⟨ended, empty, closed⟩
  · obtain ⟨sameContent, stillFits⟩ :=
      receive_moveOutcome (source ▸ carries.source) carries.known reading sound
    rw [move_of_reading found reading, reader?_setReader, reader?_moveOutcome, found,
      Reader.thread_receive, if_pos named.symm]
    exact ⟨_, rfl, by simp [source], sameContent.trans content, stillFits⟩
  · rw [move_of_not_reading found (by simp [ended]), reader?_setReader, if_pos named.symm, found]
    exact ⟨reader, rfl, source, content, .inr ⟨ended, empty, closed⟩⟩

theorem carries_move_other {host : Host} {channel : Channel} {bytes : Bytes}
    (carries : host.Carries channel bytes) {thread : Nat} (different : thread ≠ channel.thread)
    (move : ReaderMove) : (host.move thread move).Carries channel bytes := by
  refine carries.of_readersRan (readersRan_move host thread move) ?_
  cases found : host.reader? thread with
  | none =>
      rw [move_of_unknown found]
      exact carries.reader
  | some reader =>
      obtain ⟨member, named⟩ := reader?_eq_some found
      by_cases reading : reader.status = .reading
      · have elsewhere := (carries.only reader member).resolve_left fun same =>
          different (named ▸ same)
        rw [move_of_reading found reading, reader?_setReader, Reader.thread_receive, named,
          if_neg different.symm, reader?_moveOutcome, queue_setReader,
          host.queue_moveOutcome elsewhere]
        exact carries.reader
      · rw [move_of_not_reading found reading, reader?_setReader, named, if_neg different.symm]
        exact carries.reader

/-- Whichever thread moves, the channel keeps what it carries. -/
theorem carries_move {host : Host} {channel : Channel} {bytes : Bytes}
    (carries : host.Carries channel bytes) (thread : Nat) {move : ReaderMove}
    (sound : ∀ error, move ≠ .fail error) : (host.move thread move).Carries channel bytes := by
  by_cases own : thread = channel.thread
  · exact own ▸ carries_move_own carries sound
  · exact carries_move_other carries own move

theorem carries_playRound {host : Host} {channel : Channel} {bytes : Bytes}
    (carries : host.Carries channel bytes) {round : Round}
    (sound : ∀ step ∈ round, ∀ error, step.2 ≠ .fail error) :
    (host.playRound round).Carries channel bytes := by
  unfold playRound
  induction round generalizing host with
  | nil => exact carries
  | cons step rest ih =>
      have moved := carries_move carries step.1 (sound step List.mem_cons_self)
      exact ih moved fun later member => sound later (List.mem_cons_of_mem step member)

theorem carries_readOften {host : Host} {channel : Channel} {bytes : Bytes}
    (carries : host.Carries channel bytes) (thread times : Nat) :
    (host.readOften thread times).Carries channel bytes := by
  induction times generalizing host with
  | zero => exact carries
  | succ times ih => exact ih (carries_move carries thread (by simp))

theorem carries_settleEach {host : Host} {channel : Channel} {bytes : Bytes}
    (carries : host.Carries channel bytes) (readers : List Reader) :
    (host.settleEach readers).Carries channel bytes := by
  induction readers generalizing host with
  | nil => exact carries
  | cons reader rest ih =>
      rw [settleEach_cons]
      exact ih (carries_readOften carries _ _)

theorem carries_settle {host : Host} {channel : Channel} {bytes : Bytes}
    (carries : host.Carries channel bytes) : host.settle.Carries channel bytes :=
  carries_settleEach carries host.readers

theorem carries_skip {host : Host} {channel : Channel} {bytes : Bytes}
    (carries : host.Carries channel bytes) (schedule : List Round) :
    ({ host with schedule } : Host).Carries channel bytes :=
  ⟨carries.known, carries.source, carries.only, carries.reader⟩

/-- A turn of the reader threads keeps what a channel carries. -/
theorem carries_takeTurn {host : Host} {channel : Channel} {bytes : Bytes}
    (carries : host.Carries channel bytes) (sound : host.NoReadFailures) :
    host.takeTurn.Carries channel bytes := by
  unfold takeTurn
  split
  · exact carries_settle carries
  · rename_i round rest scheduled
    exact carries_playRound (carries_skip carries rest)
      (sound round (scheduled ▸ List.mem_cons_self))

theorem carries_playUntil {channel : Channel} {bytes : Bytes} (holds : Host → Bool)
    {host : Host} (carries : host.Carries channel bytes) {rounds : List Round}
    (sound : ∀ round ∈ rounds, ∀ step ∈ round, ∀ error, step.2 ≠ .fail error) :
    (host.playUntil holds rounds).Carries channel bytes := by
  induction rounds generalizing host with
  | nil =>
      simp only [playUntil]
      split
      · exact carries_skip carries []
      · exact carries_settle (carries_skip carries [])
  | cons round rest ih =>
      simp only [playUntil]
      split
      · exact carries_skip carries _
      · exact ih (carries_playRound carries (sound round List.mem_cons_self))
          fun later member => sound later (List.mem_cons_of_mem round member)

theorem carries_await {host : Host} {channel : Channel} {bytes : Bytes}
    (carries : host.Carries channel bytes) (sound : host.NoReadFailures) (holds : Host → Bool) :
    (host.await holds).Carries channel bytes :=
  carries_playUntil holds carries sound

/-! ## Draining -/

/-- A thread that has ended does not read again. -/
theorem isReading_move {host : Host} {thread : Nat} (ended : host.isReading thread = false)
    (other : Nat) (move : ReaderMove) : (host.move other move).isReading thread = false := by
  cases found : host.reader? other with
  | none => rw [move_of_unknown found, ended]
  | some reader =>
      have named := (reader?_eq_some found).2
      by_cases reading : reader.status = .reading
      · have different : thread ≠ other := by
          rintro rfl
          simp [isReading, found, reading] at ended
        rw [move_of_reading found reading, isReading, reader?_setReader, Reader.thread_receive,
          named, if_neg different, reader?_moveOutcome]
        exact ended
      · rw [move_of_not_reading found reading, isReading, reader?_setReader, named]
        split
        · rename_i same
          simp [same, found, reading]
        · exact ended

theorem isReading_readOften {host : Host} {thread : Nat} (ended : host.isReading thread = false)
    (other times : Nat) : (host.readOften other times).isReading thread = false := by
  induction times generalizing host with
  | zero => exact ended
  | succ times ih => exact ih (isReading_move ended other _)

theorem isReading_settleEach {host : Host} {thread : Nat} (ended : host.isReading thread = false)
    (readers : List Reader) : (host.settleEach readers).isReading thread = false := by
  induction readers generalizing host with
  | nil => exact ended
  | cons reader rest ih => exact ih (isReading_readOften ended _ _)

/-- Each read takes a chunk from the front of the pipe. -/
theorem queue_move_read {host : Host} {channel : Channel} {bytes : Bytes}
    (carries : host.Carries channel bytes) :
    (host.move channel.thread (.read chunkSize)).queue channel.pipe =
      (host.queue channel.pipe).drop chunkSize := by
  obtain ⟨reader, found, source, -, fits⟩ := carries.reader
  rcases fits with reading | ⟨ended, empty, -⟩
  · rw [move_of_reading found reading, queue_setReader, source]
    simp only [moveOutcome, attempt, carries.source]
    cases queued : host.queue channel.pipe with
    | nil =>
        simp only [List.drop_nil]
        split <;> exact queued
    | cons first rest => simp [host.queue_setQueue carries.known, chunkSize]
  · rw [move_of_not_reading found (by simp [ended]), queue_setReader, empty, List.drop_nil]

/-- A read of an empty pipe that cannot be written to ends the reader. -/
theorem isReading_move_read {host : Host} {channel : Channel} {bytes : Bytes}
    (carries : host.Carries channel bytes) (empty : host.queue channel.pipe = [])
    (closed : host.isWritable channel.pipe = false) (atMost : Nat) :
    (host.move channel.thread (.read atMost)).isReading channel.thread = false := by
  obtain ⟨reader, found, source, -, fits⟩ := carries.reader
  have named := (reader?_eq_some found).2
  rcases fits with reading | ⟨ended, -⟩
  · rw [move_of_reading found reading, isReading, reader?_setReader, reader?_moveOutcome, found,
      Reader.thread_receive, if_pos named.symm, source]
    rw [isWritable] at closed
    simp [moveOutcome, attempt, carries.source, empty, closed, Reader.receive, reading]
  · rw [move_of_not_reading found (by simp [ended]), isReading, reader?_setReader,
      if_pos named.symm, found]
    simp [ended]

theorem queue_readOften {host : Host} {channel : Channel} {bytes : Bytes}
    (carries : host.Carries channel bytes) (times : Nat) :
    (host.readOften channel.thread times).queue channel.pipe =
      (host.queue channel.pipe).drop (times * chunkSize) := by
  induction times generalizing host with
  | zero => simp [readOften]
  | succ times ih =>
      rw [readOften, ih (carries_move carries _ (by simp)), queue_move_read carries,
        List.drop_drop, Nat.succ_mul, Nat.add_comm]

theorem isWritable_of_readersRan {before after : Host} (ran : ReadersRan before after)
    (pipe : Nat) : after.isWritable pipe = before.isWritable pipe := by
  simp only [isWritable, ran.table]

/-- One read more than it takes to empty the pipe sees its end. -/
theorem isReading_readOften_of_closed {host : Host} {channel : Channel} {bytes : Bytes}
    (carries : host.Carries channel bytes) (closed : host.isWritable channel.pipe = false)
    {times : Nat} (enough : (host.queue channel.pipe).length ≤ times * chunkSize) :
    (host.readOften channel.thread (times + 1)).isReading channel.thread = false := by
  induction times generalizing host with
  | zero =>
      have empty : host.queue channel.pipe = [] := List.eq_nil_of_length_eq_zero (by omega)
      exact isReading_move_read carries empty closed chunkSize
  | succ times ih =>
      rw [readOften]
      refine ih (carries_move carries _ (by simp)) ?_ ?_
      · rw [isWritable_of_readersRan (readersRan_move host _ _), closed]
      · rw [queue_move_read carries, List.length_drop]
        rw [Nat.succ_mul] at enough
        omega

/-- After all readers have done what they can, the pipe of a channel is empty,
and its reader has ended when the pipe cannot be written to. -/
theorem settle_drains {host : Host} {channel : Channel} {bytes : Bytes}
    (carries : host.Carries channel bytes) :
    host.settle.queue channel.pipe = [] ∧
      (host.isWritable channel.pipe = false → host.settle.isReading channel.thread = false) := by
  obtain ⟨reader, found, source, -, -⟩ := carries.reader
  obtain ⟨member, named⟩ := reader?_eq_some found
  obtain ⟨before, after, split⟩ := List.append_of_mem member
  -- the turn of the channel's own reader empties the pipe, nobody fills it again
  let reached := host.settleEach before
  have ran : ReadersRan host reached := readersRan_settleEach host before
  have reachedCarries : reached.Carries channel bytes := carries_settleEach carries before
  have settled : host.settle =
      (reached.readOften channel.thread (reached.readsNeeded reader)).settleEach after := by
    rw [settle_eq_settleEach, split, settleEach_append, settleEach_cons, named]
  have needed : reached.readsNeeded reader =
      (reached.queue channel.pipe).length / chunkSize + 1 + 1 := by
    simp [readsNeeded, source, reachedCarries.source]
  have enough : (reached.queue channel.pipe).length ≤
      ((reached.queue channel.pipe).length / chunkSize + 1) * chunkSize := by
    simp only [chunkSize]
    omega
  rw [settled, needed]
  constructor
  · have emptied : (reached.readOften channel.thread
        ((reached.queue channel.pipe).length / chunkSize + 1 + 1)).queue channel.pipe = [] := by
      rw [queue_readOften reachedCarries]
      apply List.drop_eq_nil_of_le
      rw [Nat.succ_mul]
      omega
    have left := (readersRan_settleEach (reached.readOften channel.thread
      ((reached.queue channel.pipe).length / chunkSize + 1 + 1)) after).queue_suffix channel.pipe
    rw [emptied] at left
    exact List.eq_nil_of_suffix_nil left
  · intro closed
    apply isReading_settleEach
    refine isReading_readOften_of_closed reachedCarries ?_ enough
    rw [isWritable_of_readersRan ran, closed]

/-- Waiting ends with what is waited for, when that holds as soon as the readers
have done what they can. -/
theorem playUntil_holds {channel : Channel} {bytes : Bytes} {writable : Bool}
    (holds : Host → Bool)
    (stable : ∀ (state : Host) (schedule : List Round),
      holds { state with schedule } = holds state)
    (drained : ∀ state : Host, state.Carries channel bytes →
      state.isWritable channel.pipe = writable → holds state.settle = true)
    {host : Host} (carries : host.Carries channel bytes)
    (access : host.isWritable channel.pipe = writable) {rounds : List Round}
    (sound : ∀ round ∈ rounds, ∀ step ∈ round, ∀ error, step.2 ≠ .fail error) :
    holds (host.playUntil holds rounds) = true := by
  induction rounds generalizing host with
  | nil =>
      simp only [playUntil]
      split
      · assumption
      · exact drained _ (carries_skip carries []) access
  | cons round rest ih =>
      simp only [playUntil]
      split
      · rename_i reached
        rw [stable, reached]
      · refine ih (carries_playRound carries (sound round List.mem_cons_self)) ?_
          fun later member => sound later (List.mem_cons_of_mem round member)
        exact (isWritable_of_readersRan (readersRan_playRound host round) _).trans access

/-- Waiting for room in the pipe of a channel ends with room. -/
theorem room_await {host : Host} {channel : Channel} {bytes : Bytes}
    (carries : host.Carries channel bytes) (sound : host.NoReadFailures) :
    0 < (host.await fun host => 0 < host.room channel.pipe).room channel.pipe := by
  have ready := playUntil_holds (fun host => decide (0 < host.room channel.pipe))
    (fun _ _ => rfl)
    (fun state stateCarries _ => by simp [room, (settle_drains stateCarries).1, pipeCapacity])
    carries rfl sound
  simpa [await] using ready

/-- Waiting for the reader of a pipe that cannot be written to ends with the end
of the reader. -/
theorem isReading_await {host : Host} {channel : Channel} {bytes : Bytes}
    (carries : host.Carries channel bytes) (sound : host.NoReadFailures)
    (closed : host.isWritable channel.pipe = false) :
    (host.await fun host => !host.isReading channel.thread).isReading channel.thread = false := by
  have ended := playUntil_holds (fun host => !host.isReading channel.thread)
    (fun _ _ => rfl)
    (fun state stateCarries access => by simp [(settle_drains stateCarries).2 access])
    carries closed sound
  simpa [await] using ended

/-! ## Feeding -/

/-- Between two states a pipe was fed, and reader threads ran. -/
structure Fed (pipe : Nat) (before after : Host) : Prop where
  rest : after =
    { before with
      pipes := after.pipes
      readers := after.readers
      schedule := after.schedule
      stuck := after.stuck }
  identities : ∀ reader ∈ after.readers,
    ∃ earlier ∈ before.readers, earlier.identity = reader.identity
  pipe_count : after.pipes.length = before.pipes.length
  queue_suffix : ∀ other, other ≠ pipe → after.queue other <:+ before.queue other
  schedule_suffix : after.schedule <:+ before.schedule
  collects : Collects before after

namespace Fed

variable {pipe : Nat}

theorem refl (host : Host) : Fed pipe host host where
  rest := rfl
  identities := fun reader member => ⟨reader, member, rfl⟩
  pipe_count := rfl
  queue_suffix := fun _ _ => List.suffix_refl _
  schedule_suffix := List.suffix_refl _
  collects := .refl host

theorem trans {first second third : Host} (start : Fed pipe first second)
    (rest : Fed pipe second third) : Fed pipe first third where
  rest := by rw [rest.rest, start.rest]
  identities := by
    intro reader member
    obtain ⟨middle, present, same⟩ := rest.identities reader member
    obtain ⟨earlier, known, identity⟩ := start.identities middle present
    exact ⟨earlier, known, identity.trans same⟩
  pipe_count := rest.pipe_count.trans start.pipe_count
  queue_suffix := fun other different =>
    (rest.queue_suffix other different).trans (start.queue_suffix other different)
  schedule_suffix := rest.schedule_suffix.trans start.schedule_suffix
  collects := start.collects.trans rest.collects

theorem of_readersRan {before after : Host} (ran : ReadersRan before after) :
    Fed pipe before after where
  rest := by rw [ran.rest]
  identities := ran.identities
  pipe_count := ran.pipe_count
  queue_suffix := fun other _ => ran.queue_suffix other
  schedule_suffix := ran.schedule_suffix
  collects := ran.collects

theorem table {before after : Host} (fed : Fed pipe before after) : after.table = before.table := by
  rw [fed.rest]

end Fed

theorem fed_setQueue (host : Host) (pipe : Nat) (bytes : Bytes) :
    Fed pipe host (host.setQueue pipe bytes) where
  rest := rfl
  identities := fun reader member => ⟨reader, member, rfl⟩
  pipe_count := by simp [setQueue]
  queue_suffix := fun _ different =>
    host.queue_setQueue_of_ne different bytes ▸ List.suffix_refl _
  schedule_suffix := List.suffix_refl _
  collects := .of_readers rfl

theorem fed_push (host : Host) (pipe : Nat) (bytes : Bytes) :
    Fed pipe host (host.push pipe bytes) :=
  (fed_setQueue host pipe _).trans (.of_readersRan (readersRan_takeTurn _))

theorem fed_feed (pipe : Nat) (host : Host) (bytes : Bytes) :
    Fed pipe host (feed pipe host bytes) := by
  fun_induction feed pipe host bytes with
  | case1 host => exact .refl host
  | case2 host first rest ready full =>
      have waited : Fed pipe host ready := .of_readersRan (readersRan_await host _)
      exact waited.trans
        { rest := rfl
          identities := fun reader member => ⟨reader, member, rfl⟩
          pipe_count := rfl
          queue_suffix := fun _ _ => List.suffix_refl _
          schedule_suffix := List.suffix_refl _
          collects := .of_readers rfl }
  | case3 host first rest ready more space ih =>
      have waited : Fed pipe host ready := .of_readersRan (readersRan_await host _)
      exact (waited.trans (fed_push ready pipe _)).trans ih

theorem isWritable_of_fed {pipe : Nat} {before after : Host} (fed : Fed pipe before after)
    (other : Nat) : after.isWritable other = before.isWritable other := by
  simp only [isWritable, fed.table]

/-- What is queued in a pipe that can be written to adds to what its channel
carries. -/
theorem carries_setQueue {host : Host} {channel : Channel} {bytes : Bytes}
    (carries : host.Carries channel bytes) (writable : host.isWritable channel.pipe = true)
    (more : Bytes) :
    (host.setQueue channel.pipe (host.queue channel.pipe ++ more)).Carries channel
      (bytes ++ more) where
  known := by simpa [setQueue] using carries.known
  source := carries.source
  only := carries.only
  reader := by
    obtain ⟨reader, found, source, content, fits⟩ := carries.reader
    refine ⟨reader, found, source, ?_, ?_⟩
    · rw [host.queue_setQueue carries.known, if_pos rfl, ← List.append_assoc, content]
    · rcases fits with reading | ⟨-, -, closed⟩
      · exact .inl reading
      · rw [writable] at closed
        cases closed

theorem carries_setQueue_other {host : Host} {channel : Channel} {bytes : Bytes}
    (carries : host.Carries channel bytes) {pipe : Nat} (different : channel.pipe ≠ pipe)
    (more : Bytes) : (host.setQueue pipe more).Carries channel bytes where
  known := by simpa [setQueue] using carries.known
  source := carries.source
  only := carries.only
  reader := by
    rw [host.queue_setQueue_of_ne different]
    exact carries.reader

theorem carries_push {host : Host} {channel : Channel} {bytes : Bytes}
    (carries : host.Carries channel bytes) (sound : host.NoReadFailures)
    (writable : host.isWritable channel.pipe = true) (more : Bytes) :
    (host.push channel.pipe more).Carries channel
      (bytes ++ more.take (host.room channel.pipe)) :=
  carries_takeTurn (carries_setQueue carries writable _) sound

theorem stuck_push (host : Host) (pipe : Nat) (bytes : Bytes) :
    (host.push pipe bytes).stuck = host.stuck :=
  (readersRan_takeTurn _).stuck

/-- Feeding the pipe of a channel adds everything that is fed, and never blocks
for good. -/
theorem carries_feed {channel : Channel} {host : Host} {bytes : Bytes}
    (carries : host.Carries channel bytes) (sound : host.NoReadFailures)
    (writable : host.isWritable channel.pipe = true) (more : Bytes) :
    (feed channel.pipe host more).Carries channel (bytes ++ more) ∧
      (feed channel.pipe host more).stuck = host.stuck := by
  revert bytes carries sound writable
  fun_induction feed channel.pipe host more with
  | case1 host =>
      intro bytes carries _ _
      simpa using carries
  | case2 host first rest ready =>
      rename_i full
      intro bytes carries sound _
      have space : 0 < ready.room channel.pipe := room_await carries sound
      omega
  | case3 host first rest ready more =>
      rename_i space ih
      intro bytes carries sound writable
      have ran : ReadersRan host ready := readersRan_await host _
      have waited : ready.Carries channel bytes := carries_await carries sound _
      have stillSound := sound.later ran.schedule_suffix
      have stillWritable := (isWritable_of_readersRan ran channel.pipe).trans writable
      have pushed := carries_push waited stillSound stillWritable (first :: rest)
      have fed := fed_push ready channel.pipe (first :: rest)
      obtain ⟨carried, running⟩ := ih pushed (stillSound.later fed.schedule_suffix)
        ((isWritable_of_fed fed channel.pipe).trans stillWritable)
      rw [space, List.take_succ_cons, List.append_assoc, List.cons_append,
        List.take_append_drop] at carried
      exact ⟨carried, running.trans ((stuck_push ready channel.pipe _).trans ran.stuck)⟩

/-- Feeding a pipe leaves every other channel alone. -/
theorem carries_feed_other {channel : Channel} {pipe : Nat} (different : channel.pipe ≠ pipe)
    {host : Host} {bytes : Bytes} (carries : host.Carries channel bytes)
    (sound : host.NoReadFailures) (more : Bytes) :
    (feed pipe host more).Carries channel bytes := by
  fun_induction feed pipe host more with
  | case1 host => exact carries
  | case2 host first rest ready full =>
      have waited : ready.Carries channel bytes := carries_await carries sound _
      exact ⟨waited.known, waited.source, waited.only, waited.reader⟩
  | case3 host first rest ready more space ih =>
      have ran : ReadersRan host ready := readersRan_await host _
      have waited : ready.Carries channel bytes := carries_await carries sound _
      have stillSound := sound.later ran.schedule_suffix
      refine ih (carries_takeTurn (carries_setQueue_other waited different _) stillSound)
        (stillSound.later (fed_push ready pipe _).schedule_suffix)

/-! ## Joining -/

/-- Joining the reader of a pipe that cannot be written to hands out everything
that the channel carries, and does not block for good. -/
theorem join_of_closed {host : Host} {channel : Channel} {bytes : Bytes}
    (carries : host.Carries channel bytes) (sound : host.NoReadFailures)
    (closed : host.isWritable channel.pipe = false) :
    (∃ reader, (host.join channel.thread).1 = some reader ∧
      reader.collected = bytes ∧ reader.status = .finished) ∧
      (host.join channel.thread).2.stuck = host.stuck := by
  have ran := readersRan_await host fun host => !host.isReading channel.thread
  have ended := isReading_await carries sound closed
  obtain ⟨reader, found, -, content, fits⟩ :=
    (carries_await carries sound fun host => !host.isReading channel.thread).reader
  constructor
  · refine ⟨reader, found, ?_⟩
    rcases fits with reading | ⟨finished, empty, -⟩
    · rw [isReading, found] at ended
      simp [reading] at ended
    · rw [empty, List.append_nil] at content
      exact ⟨content, finished⟩
  · simp only [join, ended, Bool.or_false, ran.stuck]

/-- Joining one reader leaves the channels of all others alone. -/
theorem carries_join_other {host : Host} {channel : Channel} {bytes : Bytes}
    (carries : host.Carries channel bytes) (sound : host.NoReadFailures) {thread : Nat}
    (different : channel.thread ≠ thread) :
    (host.join thread).2.Carries channel bytes := by
  have waited := carries_await carries sound fun host => !host.isReading thread
  refine
    { known := waited.known
      source := waited.source
      only := fun reader member => waited.only reader (List.mem_of_mem_filter member)
      reader := ?_ }
  obtain ⟨reader, found, rest⟩ := waited.reader
  refine ⟨reader, ?_, rest⟩
  have named := (reader?_eq_some found).2
  simp only [join, reader?, List.find?_filter]
  rw [← found, reader?]
  congr 1
  funext other
  by_cases own : other.thread = channel.thread
  · simp [own, different]
  · simp [own]

end Host

end CompileDriver
