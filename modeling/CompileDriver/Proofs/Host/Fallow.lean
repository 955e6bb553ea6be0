import CompileDriver.Proofs.Guard.Stage

/-!
# Pipes that nobody has written to

A host is fallow from some pipe on when these pipes are empty and some reader threads,
which read from none of the earlier pipes, have not read anything.  Reader threads keep
it so, whatever their moves, and so do system calls that write nothing.  The flush of
standard output keeps it so as well when the stream is no end of one of these pipes.

Other than for a channel, nothing is asked of the numbers that the threads read from: one
of them may have been pointed elsewhere.
-/

namespace CompileDriver

namespace Host

/-! ## Properties that reader threads keep -/

section

variable {holds : Host → Prop}
  (moves : ∀ host thread move, holds host → holds (Host.move host thread move))
  (skips : ∀ (host : Host) (schedule : List Round), holds host → holds { host with schedule })

include moves

theorem playRound_keeps {host : Host} (kept : holds host) (round : Round) :
    holds (host.playRound round) := by
  unfold playRound
  induction round generalizing host with
  | nil => exact kept
  | cons step rest ih => exact ih (moves host step.1 step.2 kept)

theorem readOften_keeps {host : Host} (kept : holds host) (thread times : Nat) :
    holds (host.readOften thread times) := by
  induction times generalizing host with
  | zero => exact kept
  | succ times ih => exact ih (moves host thread _ kept)

theorem settle_keeps {host : Host} (kept : holds host) : holds host.settle := by
  have each (readers : List Reader) : holds (host.settleEach readers) := by
    induction readers generalizing host with
    | nil => exact kept
    | cons reader rest ih => exact ih (readOften_keeps moves kept _ _)
  exact each host.readers

include skips

/-- What single moves keep, a turn of the readers keeps. -/
theorem takeTurn_keeps {host : Host} (kept : holds host) : holds host.takeTurn := by
  unfold takeTurn
  split
  · exact settle_keeps moves kept
  · exact playRound_keeps moves (skips host _ kept) _

/-- What single moves keep is kept while the process waits for the readers. -/
theorem await_keeps {host : Host} (kept : holds host) (awaited : Host → Bool) :
    holds (host.await awaited) := by
  have played (rounds : List Round) : holds (host.playUntil awaited rounds) := by
    induction rounds generalizing host with
    | nil =>
        simp only [playUntil]
        split
        · exact skips host _ kept
        · exact settle_keeps moves (skips host _ kept)
    | cons round rest ih =>
        simp only [playUntil]
        split
        · exact skips host _ kept
        · exact ih (playRound_keeps moves kept round)
  exact played host.schedule

end

/-! ## Fallow pipes -/

/-- The pipes from `bound` on are empty, and the threads of `running` have read nothing
and read from none of the pipes before; `held` is what the line buffer holds. -/
structure Fallow (bound : Nat) (running : List (Nat × Nat)) (held : Bytes) (host : Host) :
    Prop where
  lineBuffer : host.lineBuffer = held
  queues : ∀ pipe, bound ≤ pipe → host.queue pipe = []
  threads : ∀ reader ∈ host.readers, reader.thread < host.threadsStarted
  idle : ∀ identity ∈ running, ∀ reader, host.reader? identity.1 = some reader →
    reader.source = identity.2 ∧ reader.collected = []
  sources : ∀ identity ∈ running, ∀ pipe, host.opened identity.2 = some (.pipeReader pipe) →
    bound ≤ pipe

/-- Nothing is read where there is nothing to read. -/
theorem collected_receive_of_empty {host : Host} {reader : Reader}
    (empty : ∀ pipe, host.opened reader.source = some (.pipeReader pipe) → host.queue pipe = [])
    (move : ReaderMove) :
    (reader.receive (host.moveOutcome reader.source move).1).collected = reader.collected := by
  have unread (outcome : ReadOutcome) (notChunk : ∀ bytes, outcome ≠ .chunk bytes) :
      (reader.receive outcome).collected = reader.collected := by
    unfold Reader.receive
    split <;> simp_all
  apply unread
  intro bytes
  cases move with
  | read atMost =>
      unfold opened at empty
      simp only [moveOutcome, attempt]
      split
      · rename_i pipe found
        rw [empty pipe found]
        dsimp only
        split <;> simp
      · simp
      · simp
  | wouldBlock => simp [moveOutcome]
  | interrupted => simp [moveOutcome]
  | fail error => simp [moveOutcome]

namespace Fallow

variable {bound : Nat} {running : List (Nat × Nat)} {held : Bytes} {host after : Host}

/-- Reader threads that run change at most what the threads have read. -/
theorem readersRan (fallow : Fallow bound running held host) (ran : ReadersRan host after)
    (idle : ∀ identity ∈ running, ∀ reader, after.reader? identity.1 = some reader →
      reader.source = identity.2 ∧ reader.collected = []) :
    Fallow bound running held after where
  lineBuffer := ran.lineBuffer.trans fallow.lineBuffer
  queues pipe new := List.eq_nil_of_suffix_nil (fallow.queues pipe new ▸ ran.queue_suffix pipe)
  threads reader member := by
    obtain ⟨earlier, present, same⟩ := ran.identities reader member
    have started : after.threadsStarted = host.threadsStarted := by rw [ran.rest]
    rw [started, ← (Prod.mk.inj same).1]
    exact fallow.threads earlier present
  idle := idle
  sources identity member := by
    rw [opened, ran.table]
    exact fallow.sources identity member

theorem move (fallow : Fallow bound running held host) (thread : Nat) (move : ReaderMove) :
    Fallow bound running held (Host.move host thread move) := by
  refine fallow.readersRan (readersRan_move host thread move) fun identity member reader found => ?_
  have before := fallow.idle identity member
  cases known : host.reader? thread with
  | none =>
      rw [move_of_unknown known] at found
      exact before reader found
  | some earlier =>
      have named := (reader?_eq_some known).2
      by_cases reading : earlier.status = .reading
      · rw [move_of_reading known reading, reader?_setReader, reader?_moveOutcome,
          Reader.thread_receive, named] at found
        split at found
        · rename_i same
          rw [same] at before
          rw [same, known] at found
          obtain ⟨source, nothing⟩ := before earlier known
          cases found
          refine ⟨by rw [Reader.source_receive, source], ?_⟩
          rw [collected_receive_of_empty _ move, nothing]
          intro pipe isReader
          rw [source] at isReader
          exact fallow.queues pipe (fallow.sources identity member pipe isReader)
        · exact before reader found
      · rw [move_of_not_reading known reading, reader?_setReader, named] at found
        split at found
        · rename_i same
          rw [same] at before
          rw [same, known] at found
          cases found
          exact before _ known
        · exact before reader found

theorem skip (fallow : Fallow bound running held host) (schedule : List Round) :
    Fallow bound running held { host with schedule } :=
  ⟨fallow.lineBuffer, fallow.queues, fallow.threads, fallow.idle, fallow.sources⟩

theorem takeTurn (fallow : Fallow bound running held host) :
    Fallow bound running held host.takeTurn :=
  takeTurn_keeps (fun _ thread move fallow => fallow.move thread move)
    (fun _ schedule fallow => fallow.skip schedule) fallow

theorem await (fallow : Fallow bound running held host) (awaited : Host → Bool) :
    Fallow bound running held (host.await awaited) :=
  await_keeps (fun _ thread move fallow => fallow.move thread move)
    (fun _ schedule fallow => fallow.skip schedule) fallow awaited

theorem note (fallow : Fallow bound running held host) (event : Event) :
    Fallow bound running held (host.note event) :=
  ⟨fallow.lineBuffer, fallow.queues, fallow.threads, fallow.idle, fallow.sources⟩

theorem endCall (fallow : Fallow bound running held host) :
    Fallow bound running held host.endCall :=
  (fallow.note .systemCall).takeTurn

theorem refused (fallow : Fallow bound running held host) (refusals : List (Option OsError)) :
    Fallow bound running held { host with refusals } :=
  ⟨fallow.lineBuffer, fallow.queues, fallow.threads, fallow.idle, fallow.sources⟩

theorem retable (fallow : Fallow bound running held host) {table : DescriptorTable}
    (sources : ∀ identity ∈ running, ∀ pipe,
      table.file? identity.2 = some (.pipeReader pipe) → bound ≤ pipe) :
    Fallow bound running held { host with table } :=
  ⟨fallow.lineBuffer, fallow.queues, fallow.threads, fallow.idle, sources⟩

theorem addPipe (fallow : Fallow bound running held host) :
    Fallow bound running held { host with pipes := host.pipes ++ [[]] } where
  lineBuffer := fallow.lineBuffer
  queues pipe new := by
    have empty := fallow.queues pipe new
    simp only [Host.queue, List.getD_eq_getElem?_getD, List.getElem?_append] at empty ⊢
    split
    · exact empty
    · cases pipe - host.pipes.length <;> rfl
  threads := fallow.threads
  idle := fallow.idle
  sources := fallow.sources

/-- A thread that reads from none of the earlier pipes has not read anything at first. -/
theorem startReader (fallow : Fallow bound [] held host) {source thread : Nat} {next : Host}
    (done : host.startReader source = .ok (thread, next))
    (new : ∀ pipe, host.opened source = some (.pipeReader pipe) → bound ≤ pipe) :
    Fallow bound [(thread, source)] held next := by
  obtain ⟨rfl, rfl⟩ := startReader_ok done
  refine ⟨fallow.lineBuffer, fallow.queues, ?_, ?_, ?_⟩
  · intro reader member
    rcases List.mem_append.mp member with earlier | isNew
    · exact Nat.lt_succ_of_lt (fallow.threads reader earlier)
    · rw [List.mem_singleton.mp isNew]
      exact Nat.lt_succ_self _
  · intro identity member reader found
    obtain rfl := List.mem_singleton.mp member
    obtain ⟨present, named⟩ := reader?_eq_some found
    rcases List.mem_append.mp present with earlier | isNew
    · exact absurd named (Nat.ne_of_lt (fallow.threads reader earlier))
    · rw [List.mem_singleton.mp isNew]
      exact ⟨rfl, rfl⟩
  · intro identity member
    obtain rfl := List.mem_singleton.mp member
    exact new

theorem askToStop (fallow : Fallow bound running held host) (thread : Nat) :
    Fallow bound running held (host.askToStop thread) where
  lineBuffer := fallow.lineBuffer
  queues := fallow.queues
  threads reader member := by
    obtain ⟨earlier, present, rfl⟩ := List.mem_map.mp member
    have known := fallow.threads earlier present
    split <;> exact known
  idle identity member reader found := by
    rw [reader?_askToStop] at found
    obtain ⟨earlier, known, rfl⟩ := Option.map_eq_some_iff.mp found
    have before := fallow.idle identity member earlier known
    split <;> exact before
  sources := fallow.sources

/-- What is delivered to a file that is no writing end of these pipes does not get into
them. -/
theorem deliver (fallow : Fallow bound [] held host) {file : OpenFile}
    (old : ∀ pipe, file = .pipeWriter pipe → pipe < bound) (bytes : Bytes) :
    Fallow bound [] held (host.deliver file bytes).2 := by
  rcases host.deliver_cases file bytes with ⟨pipe, written, same⟩ | ⟨_, _, ran⟩
  · rw [same]
    have fed := fed_feed pipe host bytes
    refine ⟨?_, ?_, ?_, by simp, by simp⟩
    · rw [fed.rest]
      exact fallow.lineBuffer
    · intro other new
      have apart : other ≠ pipe := Nat.ne_of_gt (Nat.lt_of_lt_of_le (old pipe written) new)
      exact List.eq_nil_of_suffix_nil (fallow.queues other new ▸ fed.queue_suffix other apart)
    · intro reader member
      obtain ⟨earlier, present, identity⟩ := fed.identities reader member
      have started : (feed pipe host bytes).threadsStarted = host.threadsStarted := by rw [fed.rest]
      rw [started, ← (Prod.mk.inj identity).1]
      exact fallow.threads earlier present
  · refine readersRan ?_ ran (by simp)
    exact ⟨fallow.lineBuffer, fallow.queues, fallow.threads, by simp, by simp⟩

end Fallow

end Host

end CompileDriver
