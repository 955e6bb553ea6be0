import CompileDriver.Host.Reader
import CompileDriver.Proofs.Host.Table

/-!
# What reader threads change

Reader threads only take bytes out of pipes and keep them.  `ReadersRan` says
so: every other part of the host is as before, the threads are the same ones
with the same descriptors, and what is left in a pipe is the end of what was in
it.  A single move is of this kind, and so are a round, a turn and waiting.
-/

namespace CompileDriver

/-- The number of a reader thread and the descriptor that it reads from. -/
def Reader.identity (reader : Reader) : Nat × Nat :=
  (reader.thread, reader.source)

@[simp]
theorem Reader.identity_receive (reader : Reader) (outcome : ReadOutcome) :
    (reader.receive outcome).identity = reader.identity := by
  unfold Reader.receive
  split <;> rfl

@[simp]
theorem Reader.thread_receive (reader : Reader) (outcome : ReadOutcome) :
    (reader.receive outcome).thread = reader.thread :=
  congrArg Prod.fst (reader.identity_receive outcome)

@[simp]
theorem Reader.source_receive (reader : Reader) (outcome : ReadOutcome) :
    (reader.receive outcome).source = reader.source :=
  congrArg Prod.snd (reader.identity_receive outcome)

/-- A reader only adds to what it has read. -/
theorem Reader.collected_receive (reader : Reader) (outcome : ReadOutcome) :
    reader.collected <+: (reader.receive outcome).collected := by
  unfold Reader.receive
  split
  · exact List.prefix_append _ _
  all_goals exact List.prefix_refl _

namespace Host

/-! ## Queues and readers after a change -/

theorem queue_setQueue (host : Host) {pipe : Nat} (known : pipe < host.pipes.length)
    (other : Nat) (bytes : Bytes) :
    (host.setQueue pipe bytes).queue other = if other = pipe then bytes else host.queue other := by
  simp only [queue, setQueue, List.getD_eq_getElem?_getD, List.getElem?_set]
  by_cases same : other = pipe
  · subst same
    simp [known]
  · simp [same, Ne.symm same]

theorem queue_setQueue_of_ne (host : Host) {pipe other : Nat} (different : other ≠ pipe)
    (bytes : Bytes) : (host.setQueue pipe bytes).queue other = host.queue other := by
  simp [queue, setQueue, List.getD_eq_getElem?_getD, Ne.symm different]

/-- Only a pipe that exists holds bytes. -/
theorem lt_of_queue_ne_nil (host : Host) {pipe : Nat} (nonempty : host.queue pipe ≠ []) :
    pipe < host.pipes.length := by
  by_contra outside
  apply nonempty
  simp [queue, List.getD_eq_getElem?_getD, List.getElem?_eq_none (Nat.le_of_not_lt outside)]

theorem reader?_eq_some {host : Host} {thread : Nat} {reader : Reader}
    (found : host.reader? thread = some reader) :
    reader ∈ host.readers ∧ reader.thread = thread :=
  ⟨List.mem_of_find?_eq_some found, by simpa using List.find?_some found⟩

theorem reader?_setReader (host : Host) (reader : Reader) (thread : Nat) :
    (host.setReader reader).reader? thread =
      if thread = reader.thread then (host.reader? thread).map fun _ => reader
      else host.reader? thread := by
  simp only [reader?, setReader, List.find?_map]
  by_cases same : thread = reader.thread
  · subst same
    have sameTest : ((fun other : Reader => decide (other.thread = reader.thread)) ∘
        fun other => if other.thread = reader.thread then reader else other) =
        fun other => decide (other.thread = reader.thread) := by
      funext other
      by_cases named : other.thread = reader.thread <;> simp [named]
    rw [sameTest, if_pos rfl]
    cases found : host.readers.find? fun other => decide (other.thread = reader.thread) with
    | none => rfl
    | some other =>
        have named : other.thread = reader.thread := by simpa using List.find?_some found
        simp [named]
  · have sameTest : ((fun other : Reader => decide (other.thread = thread)) ∘
        fun other => if other.thread = reader.thread then reader else other) =
        fun other => decide (other.thread = thread) := by
      funext other
      by_cases named : other.thread = reader.thread
      · simp [named]
      · simp [named]
    rw [sameTest, if_neg same]
    cases found : host.readers.find? fun other => decide (other.thread = thread) with
    | none => rfl
    | some other =>
        have named : other.thread = thread := by simpa using List.find?_some found
        simp [named, same]

theorem identity_of_mem_setReader {host : Host} {reader other : Reader}
    (known : ∃ earlier ∈ host.readers, earlier.identity = reader.identity)
    (member : other ∈ (host.setReader reader).readers) :
    ∃ earlier ∈ host.readers, earlier.identity = other.identity := by
  obtain ⟨earlier, present, rfl⟩ := List.mem_map.mp member
  split
  · exact known
  · exact ⟨earlier, present, rfl⟩

/-! ## Reader threads ran -/

/-- The threads are still there, and have kept what they had read. -/
def Collects (before after : Host) : Prop :=
  ∀ thread reader, before.reader? thread = some reader →
    ∃ later, after.reader? thread = some later ∧ reader.collected <+: later.collected

theorem Collects.of_readers {before after : Host} (same : after.readers = before.readers) :
    Collects before after := by
  intro thread reader found
  rw [reader?, ← same] at found
  exact ⟨reader, found, List.prefix_refl _⟩

theorem Collects.refl (host : Host) : Collects host host :=
  .of_readers rfl

theorem Collects.trans {first second third : Host} (start : Collects first second)
    (rest : Collects second third) : Collects first third := by
  intro thread reader found
  obtain ⟨later, present, grown⟩ := start thread reader found
  obtain ⟨last, stillPresent, grownFurther⟩ := rest thread later present
  exact ⟨last, stillPresent, grown.trans grownFurther⟩

/-- Between two states nothing but reader threads ran. -/
structure ReadersRan (before after : Host) : Prop where
  /-- All other parts are as before. -/
  rest : after =
    { before with pipes := after.pipes, readers := after.readers, schedule := after.schedule }
  /-- No reader is new, and each one reads from the descriptor that it read from
  before. -/
  identities : ∀ reader ∈ after.readers,
    ∃ earlier ∈ before.readers, earlier.identity = reader.identity
  pipe_count : after.pipes.length = before.pipes.length
  /-- Bytes only leave a pipe, the oldest first. -/
  queue_suffix : ∀ pipe, after.queue pipe <:+ before.queue pipe
  schedule_suffix : after.schedule <:+ before.schedule
  collects : Collects before after

namespace ReadersRan

theorem refl (host : Host) : ReadersRan host host where
  rest := rfl
  identities := fun reader member => ⟨reader, member, rfl⟩
  pipe_count := rfl
  queue_suffix := fun _ => List.suffix_refl _
  schedule_suffix := List.suffix_refl _
  collects := .refl host

theorem trans {first second third : Host} (start : ReadersRan first second)
    (rest : ReadersRan second third) : ReadersRan first third where
  rest := by rw [rest.rest, start.rest]
  identities := by
    intro reader member
    obtain ⟨middle, present, same⟩ := rest.identities reader member
    obtain ⟨earlier, known, identity⟩ := start.identities middle present
    exact ⟨earlier, known, identity.trans same⟩
  pipe_count := rest.pipe_count.trans start.pipe_count
  queue_suffix := fun pipe => (rest.queue_suffix pipe).trans (start.queue_suffix pipe)
  schedule_suffix := rest.schedule_suffix.trans start.schedule_suffix
  collects := start.collects.trans rest.collects

variable {before after : Host} (ran : ReadersRan before after)

include ran

theorem table : after.table = before.table := by rw [ran.rest]

theorem journal : after.journal = before.journal := by rw [ran.rest]

theorem stuck : after.stuck = before.stuck := by rw [ran.rest]

theorem received : after.received = before.received := by rw [ran.rest]

theorem files : after.files = before.files := by rw [ran.rest]

theorem lineBuffer : after.lineBuffer = before.lineBuffer := by rw [ran.rest]

end ReadersRan

/-- Moving a queue forward and replacing a reader by one with the same identity
is the work of a reader thread. -/
theorem readersRan_attempt (host : Host) (source atMost : Nat) :
    ReadersRan host (host.attempt source atMost).2 := by
  unfold attempt
  split
  · rename_i pipe found
    split
    · split <;> exact .refl host
    · rename_i queued nonempty
      refine
        { rest := rfl
          identities := fun reader member => ⟨reader, member, rfl⟩
          pipe_count := by simp [setQueue]
          queue_suffix := fun other => ?_
          schedule_suffix := List.suffix_refl _
          collects := .of_readers rfl }
      have known := host.lt_of_queue_ne_nil nonempty
      rw [host.queue_setQueue known]
      split
      · rename_i same
        rw [same]
        exact List.drop_suffix _ _
      · exact List.suffix_refl _
  · exact .refl host
  · exact .refl host

theorem readersRan_moveOutcome (host : Host) (source : Nat) (move : ReaderMove) :
    ReadersRan host (host.moveOutcome source move).2 := by
  cases move with
  | read atMost => exact readersRan_attempt host source atMost
  | wouldBlock => exact .refl host
  | interrupted => exact .refl host
  | fail error => exact .refl host

theorem readers_moveOutcome (host : Host) (source : Nat) (move : ReaderMove) :
    (host.moveOutcome source move).2.readers = host.readers := by
  cases move with
  | read atMost =>
      simp only [moveOutcome, attempt]
      repeat' split
      all_goals rfl
  | wouldBlock => rfl
  | interrupted => rfl
  | fail error => rfl

theorem reader?_moveOutcome (host : Host) (source : Nat) (move : ReaderMove) (thread : Nat) :
    (host.moveOutcome source move).2.reader? thread = host.reader? thread := by
  simp only [reader?, readers_moveOutcome]

/-- Putting back a reader that has read further is the work of a reader thread. -/
theorem readersRan_setReader {host : Host} {earlier reader : Reader}
    (found : host.reader? reader.thread = some earlier)
    (identity : earlier.identity = reader.identity)
    (grown : earlier.collected <+: reader.collected) :
    ReadersRan host (host.setReader reader) where
  rest := rfl
  identities := fun _ present =>
    identity_of_mem_setReader ⟨earlier, (reader?_eq_some found).1, identity⟩ present
  pipe_count := rfl
  queue_suffix := fun _ => List.suffix_refl _
  schedule_suffix := List.suffix_refl _
  collects := by
    intro thread other known
    rw [reader?_setReader, known]
    split
    · rename_i same
      rw [same, found] at known
      cases known
      exact ⟨reader, rfl, grown⟩
    · exact ⟨other, rfl, List.prefix_refl _⟩

/-- A move of a thread is a move of the first reader with its number. -/
theorem move_of_reading {host : Host} {thread : Nat} {reader : Reader}
    (found : host.reader? thread = some reader) (reading : reader.status = .reading)
    (move : ReaderMove) :
    host.move thread move =
      (host.moveOutcome reader.source move).2.setReader
        (reader.receive (host.moveOutcome reader.source move).1) := by
  simp [Host.move, found, moveReader, reading]

theorem move_of_not_reading {host : Host} {thread : Nat} {reader : Reader}
    (found : host.reader? thread = some reader) (ended : reader.status ≠ .reading)
    (move : ReaderMove) : host.move thread move = host.setReader reader := by
  simp [Host.move, found, moveReader, ended]

theorem move_of_unknown {host : Host} {thread : Nat} (unknown : host.reader? thread = none)
    (move : ReaderMove) : host.move thread move = host := by
  simp [Host.move, unknown]

theorem readersRan_move (host : Host) (thread : Nat) (move : ReaderMove) :
    ReadersRan host (host.move thread move) := by
  cases found : host.reader? thread with
  | none =>
      rw [move_of_unknown found]
      exact .refl host
  | some reader =>
      have named := (reader?_eq_some found).2
      by_cases reading : reader.status = .reading
      · rw [move_of_reading found reading]
        have unchanged (outcome : ReadOutcome) :
            (host.moveOutcome reader.source move).2.reader? (reader.receive outcome).thread =
              some reader := by
          rw [Reader.thread_receive, reader?_moveOutcome, named, found]
        exact (readersRan_moveOutcome host reader.source move).trans
          (readersRan_setReader (unchanged _) (reader.identity_receive _).symm
            (reader.collected_receive _))
      · rw [move_of_not_reading found reading]
        exact readersRan_setReader (named.symm ▸ found) rfl (List.prefix_refl _)

theorem readersRan_playRound (host : Host) (round : Round) :
    ReadersRan host (host.playRound round) := by
  unfold playRound
  induction round generalizing host with
  | nil => exact .refl host
  | cons step rest ih => exact (readersRan_move host step.1 step.2).trans (ih _)

theorem readersRan_readOften (host : Host) (thread times : Nat) :
    ReadersRan host (host.readOften thread times) := by
  induction times generalizing host with
  | zero => exact .refl host
  | succ times ih => exact (readersRan_move host thread _).trans (ih _)

/-- Let some readers go on, one after the other, until each would have to
wait. -/
def settleEach (host : Host) (readers : List Reader) : Host :=
  readers.foldl (fun state reader => state.readOften reader.thread (state.readsNeeded reader)) host

theorem settle_eq_settleEach (host : Host) : host.settle = host.settleEach host.readers :=
  rfl

theorem settleEach_cons (host : Host) (reader : Reader) (rest : List Reader) :
    host.settleEach (reader :: rest) =
      (host.readOften reader.thread (host.readsNeeded reader)).settleEach rest :=
  rfl

theorem settleEach_append (host : Host) (first rest : List Reader) :
    host.settleEach (first ++ rest) = (host.settleEach first).settleEach rest :=
  List.foldl_append

theorem readersRan_settleEach (host : Host) (readers : List Reader) :
    ReadersRan host (host.settleEach readers) := by
  induction readers generalizing host with
  | nil => exact .refl host
  | cons reader rest ih =>
      rw [settleEach_cons]
      exact (readersRan_readOften host _ _).trans (ih _)

theorem readersRan_settle (host : Host) : ReadersRan host host.settle :=
  readersRan_settleEach host host.readers

/-- Leaving out the first rounds of the schedule changes nothing else. -/
theorem readersRan_skip (host : Host) {schedule : List Round}
    (later : schedule <:+ host.schedule) : ReadersRan host { host with schedule } where
  rest := rfl
  identities := fun reader member => ⟨reader, member, rfl⟩
  pipe_count := rfl
  queue_suffix := fun _ => List.suffix_refl _
  schedule_suffix := later
  collects := .of_readers rfl

theorem readersRan_takeTurn (host : Host) : ReadersRan host host.takeTurn := by
  unfold takeTurn
  split
  · exact readersRan_settle host
  · rename_i round rest scheduled
    exact (readersRan_skip host (scheduled ▸ List.suffix_cons _ _)).trans
      (readersRan_playRound _ round)

theorem readersRan_playUntil (holds : Host → Bool) (host : Host) (rounds : List Round)
    (scheduled : rounds <:+ host.schedule) :
    ReadersRan host (host.playUntil holds rounds) := by
  induction rounds generalizing host with
  | nil =>
      have skipped := readersRan_skip host (List.nil_suffix (l := host.schedule))
      simp only [playUntil]
      split
      · exact skipped
      · exact skipped.trans (readersRan_settle _)
  | cons round rest ih =>
      simp only [playUntil]
      split
      · exact readersRan_skip host scheduled
      · have played := readersRan_playRound host round
        refine played.trans (ih _ ?_)
        rw [schedule_playRound]
        exact (List.suffix_cons _ _).trans scheduled

theorem readersRan_await (host : Host) (holds : Host → Bool) :
    ReadersRan host (host.await holds) :=
  readersRan_playUntil holds host _ (List.suffix_refl _)

end Host

end CompileDriver
