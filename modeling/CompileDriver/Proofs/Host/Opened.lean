import CompileDriver.Proofs.Host.StandardStream
import Mathlib.Logic.Function.Basic

/-!
# What the numbers refer to

`opened` tells the open file of each number, and `threads` the reader threads
with the numbers that they read from.  `Shows` says what both are, the threads
up to some that may have gone.

`Ensures` is a triple: from hosts with a precondition the action leads to hosts
with a postcondition, which can speak about the value of the action.  Each system
call has a triple that says how the open files change.
-/

namespace CompileDriver

/-- The open file of each number. -/
abbrev OpenFiles := Nat → Option OpenFile

namespace Host

/-- The open file of each number. -/
def opened (host : Host) : OpenFiles :=
  host.table.file?

/-- The reader threads, with the numbers that they read from. -/
def threads (host : Host) : List (Nat × Nat) :=
  host.readers.map Reader.identity

/-- The numbers refer to these files, and there are no other threads than
these. -/
structure Shows (files : OpenFiles) (threads : List (Nat × Nat)) (host : Host) : Prop where
  files : host.opened = files
  threads : host.threads ⊆ threads

/-- Neither the files nor the threads have changed, but for threads that have
gone. -/
def Still (before after : Host) : Prop :=
  after.opened = before.opened ∧ after.threads ⊆ before.threads

theorem threads_subset {before after : Host}
    (identities : ∀ reader ∈ after.readers,
      ∃ earlier ∈ before.readers, earlier.identity = reader.identity) :
    after.threads ⊆ before.threads := by
  intro identity member
  obtain ⟨reader, present, rfl⟩ := List.mem_map.mp member
  obtain ⟨earlier, known, same⟩ := identities reader present
  exact List.mem_map.mpr ⟨earlier, known, same⟩

theorem ReadersRan.still {before after : Host} (ran : ReadersRan before after) :
    Still before after :=
  ⟨by rw [opened, opened, ran.table], threads_subset ran.identities⟩

theorem still_endCall (host : Host) : Still host host.endCall :=
  (readersRan_takeTurn (host.note .systemCall)).still

theorem still_deliver (host : Host) (file : OpenFile) (bytes : Bytes) :
    Still host (host.deliver file bytes).2 := by
  refine ⟨by rw [opened, opened, table_deliver], ?_⟩
  rcases host.deliver_cases file bytes with ⟨pipe, -, fed⟩ | ⟨_, _, ran⟩
  · rw [fed]
    exact threads_subset (fed_feed pipe host bytes).identities
  · exact threads_subset ran.identities

theorem Still.refl (host : Host) : Still host host :=
  ⟨rfl, List.Subset.refl _⟩

theorem Still.trans {first second third : Host} (start : Still first second)
    (rest : Still second third) : Still first third :=
  ⟨rest.1.trans start.1, List.Subset.trans rest.2 start.2⟩

theorem Shows.still {files : OpenFiles} {threads : List (Nat × Nat)} {before after : Host}
    (shows : Shows files threads before) (still : Still before after) :
    Shows files threads after :=
  ⟨still.1.trans shows.files, List.Subset.trans still.2 shows.threads⟩

theorem Utterance.still {foreign : Nat → Prop} {before after : Host}
    (utterance : Utterance foreign before after) : Still before after := by
  cases utterance with
  | turn => exact (readersRan_takeTurn before).still
  | deliver => exact still_deliver before _ _
  | note | lineBuffer | buffers => exact .refl _

theorem Utterances.still {foreign : Nat → Prop} {before after : Host}
    (utterances : Utterances foreign before after) : Still before after := by
  induction utterances with
  | refl => exact .refl _
  | tail _ utterance ih => exact ih.trans utterance.still

end Host

variable {α β : Type}

/-- To change neither the files nor the threads, but for threads that go. -/
def stillness : Discipline where
  needs _ := True
  allows := Host.Still
  refl := .refl
  trans := .trans
  keeps _ _ := trivial

/-- Whatever the host, the action changes neither files nor threads. -/
abbrev Stays (action : Action α) (yields : α → Prop) : Prop :=
  stillness.Governs action yields

theorem Speaks.stays {action : Action α} {yields : α → Prop}
    (speaks : Speaks (fun _ => False) action yields) : Stays action yields :=
  speaks.relax (fun _ _ => trivial) fun _ _ utterances => utterances.still

theorem Stays.elapsed : Stays SystemCall.elapsed fun _ => True := by
  refine .look fun host _ => ?_
  split
  · exact .value trivial
  · exact ⟨.refl host, trivial⟩

/-! ## Triples -/

/-- From hosts with the precondition the action leads to hosts with the
postcondition. -/
def Ensures (pre : Host → Prop) (action : Action α) (post : α → Host → Prop) : Prop :=
  ∀ host, pre host → post (action host).1 (action host).2

namespace Ensures

variable {pre : Host → Prop} {action : Action α} {post : α → Host → Prop}

theorem bind {next : α → Action β} {last : β → Host → Prop} (first : Ensures pre action post)
    (rest : ∀ value, Ensures (post value) (next value) last) :
    Ensures pre (action >>= next) last :=
  fun host holds => rest _ _ (first host holds)

/-- What comes of an action need not matter for what follows it. -/
theorem whatever {next : α → Action β} {last : β → Host → Prop}
    (rest : ∀ value, Ensures (fun _ => True) (next value) last) :
    Ensures pre (action >>= next) last :=
  fun _ _ => rest _ _ trivial

theorem value {value : α} {post : α → Host → Prop} (known : ∀ host, pre host → post value host) :
    Ensures pre (pure value : Action α) post :=
  known

theorem pureBind {value : α} {next : α → Action β} {last : β → Host → Prop}
    (ensures : Ensures pre (next value) last) : Ensures pre (pure value >>= next) last :=
  ensures

theorem weaken {strong weak : α → Host → Prop} (ensures : Ensures pre action strong)
    (implies : ∀ value host, strong value host → weak value host) : Ensures pre action weak :=
  fun host holds => implies _ _ (ensures host holds)

theorem discarded {last : Host → Prop} (ensures : Ensures pre action fun _ => last) :
    Ensures pre (discard action : Action PUnit) fun _ => last :=
  ensures

/-- What two triples ensure of one action holds together. -/
theorem both {other : Host → Prop} {otherPost : α → Host → Prop}
    (ensures : Ensures pre action post) (ensuresOther : Ensures other action otherPost) :
    Ensures (fun host => pre host ∧ other host) action fun value host =>
      post value host ∧ otherPost value host :=
  fun host holds => ⟨ensures host holds.1, ensuresOther host holds.2⟩

/-- An action that only speaks keeps the files and the threads. -/
theorem of_speaks {action : Action α} {yields : α → Prop}
    (speaks : Speaks (fun _ => False) action yields) (files : OpenFiles)
    (threads : List (Nat × Nat)) :
    Ensures (Host.Shows files threads) action fun _ => Host.Shows files threads :=
  fun host shows => shows.still (speaks.stays host trivial).1

end Ensures

/-- After an attempt that fails the files and the threads are as given; after one
that succeeds something else holds. -/
def Attempt {ε : Type} (files : OpenFiles) (threads : List (Nat × Nat))
    (succeeded : α → Host → Prop) : Except ε α → Host → Prop
  | .error _, host => host.Shows files threads
  | .ok value, host => succeeded value host

theorem Attempt.weaken {ε : Type} {files : OpenFiles} {threads : List (Nat × Nat)}
    {strong weak : α → Host → Prop} {outcome : Except ε α} {host : Host}
    (attempt : Attempt files threads strong outcome host)
    (implies : ∀ value, strong value host → weak value host) :
    Attempt files threads weak outcome host := by
  cases outcome with
  | error error => exact attempt
  | ok value => exact implies value attempt

open Function (update)

/-- Two numbers for the ends of a new pipe: the lowest free ones. -/
structure NewPipe (files : OpenFiles) (ends : Nat × Nat) : Prop where
  larger : ends.1 < ends.2
  readerFree : files ends.1 = none
  writerFree : files ends.2 = none
  below : ∀ number < ends.2, number ≠ ends.1 → files number ≠ none

/-- The open files with the ends of a pipe. -/
def OpenFiles.withPipe (files : OpenFiles) (ends : Nat × Nat) (reader writer : OpenFile) :
    OpenFiles :=
  update (update files ends.1 (some reader)) ends.2 (some writer)

namespace DescriptorTable

variable (table : DescriptorTable) (name : Nat)

theorem newPipe : NewPipe table.file? (table.pipeEnds name) := by
  let reader : Descriptor := ⟨.pipeReader name, false⟩
  have larger : table.lowestFree < (table.occupy reader).lowestFree :=
    table.lowestFree_lt_put reader
  have writerFree := (table.occupy reader).file?_lowestFree
  rw [table.file?_occupy, if_neg (Nat.ne_of_gt larger)] at writerFree
  refine ⟨larger, table.file?_lowestFree, writerFree, fun number below different isFree => ?_⟩
  have taken := (table.occupy reader).get?_isSome_of_lt below
  have alsoFree : (table.occupy reader).file? number = none := by
    rw [table.file?_occupy]
    exact (if_neg different).trans isFree
  rw [file?_eq_none_iff] at alsoFree
  simp [alsoFree] at taken

theorem file?_withPipe_eq :
    (table.withPipe name).file? =
      OpenFiles.withPipe table.file? (table.pipeEnds name) (.pipeReader name)
        (.pipeWriter name) := by
  let reader : Descriptor := ⟨.pipeReader name, false⟩
  exact ((table.occupy reader).file?_occupy_eq _).trans (by rw [table.file?_occupy_eq reader]; rfl)

end DescriptorTable

namespace Ensures

variable {files : OpenFiles} {threads : List (Nat × Nat)}

theorem acquire {call : Host → Except OsError (α × Host)} {succeeded : α → Host → Prop}
    (sound : ∀ host value next, host.Shows files threads → call host = .ok (value, next) →
      succeeded value next.endCall) :
    Ensures (Host.Shows files threads) (SystemCall.acquire call)
      (Attempt files threads succeeded) := by
  intro host shows
  obtain ⟨refusals, ⟨error, failed⟩ | ⟨value, next, done, granted⟩⟩ :=
    SystemCall.acquire_cases call host
  · rw [failed]
    exact Host.Shows.still ⟨shows.files, shows.threads⟩ (Host.still_endCall _)
  · rw [granted]
    exact sound { host with refusals } value next ⟨shows.files, shows.threads⟩ done

theorem shows_endCall {next : Host} (nextFiles : next.opened = files)
    (nextThreads : next.threads ⊆ threads) : next.endCall.Shows files threads :=
  Host.Shows.still ⟨nextFiles, nextThreads⟩ (Host.still_endCall next)

/-- Duplicating a number makes a free number refer to the same file. -/
theorem duplicate (number : Nat) :
    Ensures (Host.Shows files threads) (SystemCall.duplicate number)
      (Attempt files threads fun copy host => ∃ file, files number = some file ∧
        files copy = none ∧ host.Shows (update files copy (some file)) threads) := by
  refine acquire fun host copy next shows done => ?_
  obtain ⟨rfl, known⟩ := shows
  obtain ⟨descriptor, found, rfl, rfl⟩ := Host.duplicate_ok done
  exact ⟨descriptor.file, host.table.file?_of_get? found, host.table.file?_lowestFree,
    shows_endCall (host.table.file?_occupy_eq _) known⟩

/-- Redirecting makes a number refer to the file of another one. -/
theorem redirect (source target : Nat) :
    Ensures (Host.Shows files threads) (SystemCall.redirect source target)
      (Attempt files threads fun _ host => ∃ file, files source = some file ∧
        host.Shows (update files target (some file)) threads) := by
  refine acquire fun host value next shows done => ?_
  obtain ⟨rfl, known⟩ := shows
  obtain ⟨⟨descriptor, present⟩, rfl⟩ := Host.redirect_ok done
  have found := host.table.file?_of_get? present
  exact ⟨descriptor.file, found, shows_endCall (host.table.file?_pointTo_eq found target) known⟩

/-- Giving a saved file back cannot fail. -/
theorem giveBack {saved : Nat} {file : OpenFile} (found : files saved = some file)
    (target : Nat) :
    Ensures (Host.Shows files threads) (SystemCall.giveBack saved target) fun _ =>
      Host.Shows (update files target (some file)) threads := by
  intro host shows
  obtain ⟨rfl, known⟩ := shows
  rw [SystemCall.giveBack_saved found target]
  exact shows_endCall (host.table.file?_pointTo_eq found target) known

theorem close (number : Nat) :
    Ensures (Host.Shows files threads) (SystemCall.close number) fun _ =>
      Host.Shows (update files number none) threads := by
  intro host shows
  obtain ⟨rfl, known⟩ := shows
  exact shows_endCall (host.table.file?_close_eq number) known

/-- A file is opened under a free number, and for the first time after `bound` openings. -/
theorem openAs_since (bound : Nat) (file : Nat → OpenFile) :
    Ensures (fun host => host.Shows files threads ∧ bound ≤ host.openings)
      (SystemCall.openAs file)
      (Attempt files threads fun number host => files number = none ∧
        ∃ opening, bound ≤ opening ∧
          host.Shows (update files number (some (file opening))) threads) := by
  rintro host ⟨shows, known⟩
  obtain ⟨refusals, ⟨error, failed⟩ | ⟨number, next, done, granted⟩⟩ :=
    SystemCall.acquire_cases (·.openAs file) host
  · rw [SystemCall.openAs, failed]
    exact shows_endCall shows.files shows.threads
  · rw [SystemCall.openAs, granted]
    obtain ⟨rfl, rfl⟩ := Host.openAs_ok done
    rw [← shows.files]
    exact ⟨host.table.file?_lowestFree, host.openings, known,
      shows_endCall (host.table.file?_occupy_eq _) shows.threads⟩

/-- A file is opened under a free number. -/
theorem openAs (file : Nat → OpenFile) :
    Ensures (Host.Shows files threads) (SystemCall.openAs file)
      (Attempt files threads fun number host => files number = none ∧
        ∃ opening, host.Shows (update files number (some (file opening))) threads) := by
  intro host shows
  refine (openAs_since 0 file host ⟨shows, Nat.zero_le _⟩).weaken fun number opened => ?_
  obtain ⟨isFree, opening, -, shown⟩ := opened
  exact ⟨isFree, opening, shown⟩

/-- The discard device is opened under a free number. -/
theorem openDiscard :
    Ensures (Host.Shows files threads) SystemCall.openDiscard
      (Attempt files threads fun number host => files number = none ∧
        ∃ opening, host.Shows (update files number (some (.discard opening))) threads) :=
  openAs .discard

/-- A file is opened for appending under a free number. -/
theorem openAppending (path : Path) :
    Ensures (Host.Shows files threads) (SystemCall.openAppending path)
      (Attempt files threads fun number host => files number = none ∧
        ∃ file, host.Shows (update files number (some file)) threads) := by
  apply acquire
  intro host number next shows done
  obtain ⟨rfl, known⟩ := shows
  obtain ⟨rfl, tree, place, rfl⟩ := Host.openAppending_ok done
  exact ⟨host.table.file?_lowestFree, _, shows_endCall (host.table.file?_occupy_eq _) known⟩

/-- The two ends of a pipe take the two lowest free numbers, and the pipe is a new
one. -/
theorem pipe (bound : Nat) :
    Ensures (fun host => bound ≤ host.pipes.length ∧ host.Shows files threads) SystemCall.pipe
      (Attempt files threads fun ends host => NewPipe files ends ∧
        ∃ name, bound ≤ name ∧ name < host.pipes.length ∧
          host.Shows (files.withPipe ends (.pipeReader name) (.pipeWriter name)) threads) := by
  rintro host ⟨known, shows⟩
  obtain ⟨refusals, ⟨error, failed⟩ | ⟨ends, next, done, granted⟩⟩ :=
    SystemCall.acquire_cases Host.makePipe host
  · rw [SystemCall.pipe, failed]
    exact shows_endCall shows.files shows.threads
  · rw [SystemCall.pipe, granted]
    obtain ⟨rfl, rfl⟩ := Host.makePipe_ok done
    refine ⟨shows.files ▸ host.table.newPipe _, host.pipes.length, known, ?_, ?_⟩
    · rw [Host.endCall, (Host.readersRan_takeTurn _).pipe_count]
      simp [Host.note]
    · have files : (host.table.withPipe host.pipes.length).file? = _ :=
        host.table.file?_withPipe_eq _
      rw [← shows.files]
      exact shows_endCall files shows.threads

/-- Switching to polling changes no file. -/
theorem setPolling (number : Nat) :
    Ensures (Host.Shows files threads) (SystemCall.setPolling number)
      (Attempt files threads fun _ => Host.Shows files threads) := by
  refine acquire fun host value next shows done => ?_
  rw [Host.setPolling_ok done]
  exact shows_endCall shows.files shows.threads

/-- A new thread is the only one that is added. -/
theorem startReader (source : Nat) :
    Ensures (Host.Shows files threads) (SystemCall.startReader source)
      (Attempt files threads fun thread => Host.Shows files ((thread, source) :: threads)) := by
  refine acquire fun host thread next shows done => ?_
  obtain ⟨rfl, rfl⟩ := Host.startReader_ok done
  refine shows_endCall shows.files ?_
  intro identity member
  simp only [Host.threads, List.map_append, List.map_cons, List.map_nil, List.mem_append,
    List.mem_singleton] at member
  rcases member with earlier | rfl
  · exact List.mem_cons_of_mem _ (shows.threads earlier)
  · exact List.mem_cons_self

/-- Joining a thread takes it off the list. -/
theorem joinReader (thread : Nat) :
    Ensures (Host.Shows files threads) (SystemCall.joinReader thread) fun _ =>
      Host.Shows files (threads.filter fun identity => identity.1 ≠ thread) := by
  intro host shows
  have waited := shows.still
    (Host.readersRan_await host fun host => !host.isReading thread).still
  refine ⟨waited.files, ?_⟩
  intro identity member
  obtain ⟨reader, present, rfl⟩ := List.mem_map.mp member
  obtain ⟨known, different⟩ := List.mem_filter.mp present
  exact List.mem_filter.mpr ⟨waited.threads (List.mem_map_of_mem known), different⟩

end Ensures

end CompileDriver
