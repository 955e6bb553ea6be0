import CompileDriver.Host.Start
import CompileDriver.Proofs.Host.Opened

/-!
# Well-formed hosts

Hosts are well-formed when descriptors only refer to pipes that exist and readers only
read from descriptors that are open.  A fresh process is well-formed, and so is every
host on which the numbers refer to the same files again and which has grown.
-/

namespace CompileDriver

namespace Host

/-- No descriptor refers to a pipe that does not exist, and the readers are threads
that have been started and read from open descriptors. -/
structure WellFormed (host : Host) : Prop where
  readers : ∀ number pipe, host.opened number = some (.pipeReader pipe) →
    pipe < host.pipes.length
  writers : ∀ number pipe, host.opened number = some (.pipeWriter pipe) →
    pipe < host.pipes.length
  threads : ∀ reader ∈ host.readers, reader.thread < host.threadsStarted
  sources : ∀ reader ∈ host.readers, host.opened reader.source ≠ none

/-- A process with the standard descriptors and without readers is well-formed. -/
theorem WellFormed.of_standard {host : Host} (table : host.table = .standard)
    (readers : host.readers = []) : host.WellFormed where
  readers number pipe found := by
    rw [opened, table] at found
    rcases number with _ | _ | _ | number <;> cases found
  writers number pipe found := by
    rw [opened, table] at found
    rcases number with _ | _ | _ | number <;> cases found
  threads := by simp [readers]
  sources := by simp [readers]

/-- To close a number that no reader reads from. -/
theorem WellFormed.close {host : Host} (wellFormed : host.WellFormed) {number : Nat}
    (unread : ∀ reader ∈ host.readers, reader.source ≠ number) :
    ({ host with table := host.table.close number } : Host).WellFormed := by
  have closed : ({ host with table := host.table.close number } : Host).opened =
      Function.update host.opened number none := host.table.file?_close_eq number
  have kept {other : Nat} {file : OpenFile}
      (found : ({ host with table := host.table.close number } : Host).opened other = some file) :
      host.opened other = some file := by
    rw [closed, Function.update_apply] at found
    split at found
    · cases found
    · exact found
  constructor
  · exact fun other pipe found => wellFormed.readers other pipe (kept found)
  · exact fun other pipe found => wellFormed.writers other pipe (kept found)
  · exact wellFormed.threads
  · intro reader member
    rw [closed, Function.update_of_ne (unread reader member)]
    exact wellFormed.sources reader member

theorem wellFormed_start (directory temporary executableDirectory : Place) :
    (start directory temporary executableDirectory).WellFormed :=
  .of_standard rfl rfl

/-- A process whose standard output is a pipe that nobody reads any more, and that holds back
something of it. -/
def unread (lineBuffer : Bytes) : Host :=
  { table :=
      { slots :=
          [some ⟨.emptyInput, true⟩, some ⟨.pipeWriter 0, true⟩, some ⟨.initial .stderr, true⟩] }
    pipes := [[]]
    lineBuffer }

theorem wellFormed_unread (lineBuffer : Bytes) : (unread lineBuffer).WellFormed where
  readers number pipe found := by rcases number with _ | _ | _ | number <;> cases found
  writers number pipe found := by
    rcases number with _ | _ | _ | number <;> cases found
    exact Nat.zero_lt_one
  threads := by simp [unread]
  sources := by simp [unread]

/-- Pipes and threads have only been added. -/
def Grows (before after : Host) : Prop :=
  before.pipes.length ≤ after.pipes.length ∧ before.threadsStarted ≤ after.threadsStarted

theorem Grows.refl (host : Host) : Grows host host :=
  ⟨Nat.le_refl _, Nat.le_refl _⟩

theorem Grows.trans {first second third : Host} (start : Grows first second)
    (rest : Grows second third) : Grows first third :=
  ⟨Nat.le_trans start.1 rest.1, Nat.le_trans start.2 rest.2⟩

theorem ReadersRan.grows {before after : Host} (ran : ReadersRan before after) :
    Grows before after :=
  ⟨Nat.le_of_eq ran.pipe_count.symm, Nat.le_of_eq (by rw [ran.rest])⟩

theorem grows_deliver (host : Host) (file : OpenFile) (bytes : Bytes) :
    Grows host (host.deliver file bytes).2 := by
  rcases host.deliver_cases file bytes with ⟨pipe, -, same⟩ | ⟨_, _, ran⟩
  · rw [same]
    have fed := fed_feed pipe host bytes
    exact ⟨Nat.le_of_eq fed.pipe_count.symm, Nat.le_of_eq (by rw [fed.rest])⟩
  · exact ⟨ran.grows.1, ran.grows.2⟩

variable {foreign : Nat → Prop}

theorem Utterance.grows {before after : Host} (utterance : Utterance foreign before after) :
    Grows before after := by
  cases utterance with
  | turn => exact (readersRan_takeTurn before).grows
  | deliver => exact grows_deliver before _ _
  | note | lineBuffer | buffers => exact .refl before

theorem Step.grows {before after : Host} (step : Step foreign before after) :
    Grows before after := by
  cases step with
  | utter utterance => exact utterance.grows
  | addPipe => exact ⟨by simp, Nat.le_refl _⟩
  | startReader started =>
      obtain ⟨-, rfl⟩ := startReader_ok started
      exact ⟨Nat.le_refl _, Nat.le_succ _⟩
  | join thread => exact (readersRan_await before _).grows
  | refusals | occupy | pointTo | close | opened | askToStop | measured => exact .refl before

theorem Steps.grows {before after : Host} (steps : Steps foreign before after) :
    Grows before after := by
  induction steps with
  | refl => exact .refl _
  | tail _ step ih => exact ih.trans step.grows

/-- A host with the files and the threads of a well-formed one. -/
theorem WellFormed.of_shows {before after : Host} (wellFormed : before.WellFormed)
    (shows : after.Shows before.opened before.threads) (grows : Grows before after) :
    after.WellFormed where
  readers number pipe found :=
    Nat.lt_of_lt_of_le (wellFormed.readers number pipe (shows.files ▸ found)) grows.1
  writers number pipe found :=
    Nat.lt_of_lt_of_le (wellFormed.writers number pipe (shows.files ▸ found)) grows.1
  threads reader member := by
    obtain ⟨earlier, present, same⟩ := List.mem_map.mp (shows.threads (List.mem_map_of_mem member))
    have known := wellFormed.threads earlier present
    rw [(Prod.mk.inj same).1] at known
    exact Nat.lt_of_lt_of_le known grows.2
  sources reader member := by
    obtain ⟨earlier, present, same⟩ := List.mem_map.mp (shows.threads (List.mem_map_of_mem member))
    rw [shows.files, ← (Prod.mk.inj same).2]
    exact wellFormed.sources earlier present

/-- A host that only refers to files which were known before, and to discard devices, and
whose remaining readers read from open descriptors. -/
theorem WellFormed.of_known {before after : Host} (wellFormed : before.WellFormed)
    (known : ∀ number file, after.opened number = some file →
      (∃ earlier, before.opened earlier = some file) ∨ ∃ opening, file = .discard opening)
    (threads : after.threads ⊆ before.threads)
    (sources : ∀ identity ∈ after.threads, after.opened identity.2 ≠ none)
    (grows : Grows before after) : after.WellFormed where
  readers number pipe found := by
    rcases known number _ found with ⟨earlier, foundEarlier⟩ | ⟨opening, isDevice⟩
    · exact Nat.lt_of_lt_of_le (wellFormed.readers earlier pipe foundEarlier) grows.1
    · cases isDevice
  writers number pipe found := by
    rcases known number _ found with ⟨earlier, foundEarlier⟩ | ⟨opening, isDevice⟩
    · exact Nat.lt_of_lt_of_le (wellFormed.writers earlier pipe foundEarlier) grows.1
    · cases isDevice
  threads reader member := by
    obtain ⟨earlier, present, same⟩ := List.mem_map.mp (threads (List.mem_map_of_mem member))
    have started := wellFormed.threads earlier present
    rw [(Prod.mk.inj same).1] at started
    exact Nat.lt_of_lt_of_le started grows.2
  sources reader member := sources _ (List.mem_map_of_mem member)

end Host

end CompileDriver
