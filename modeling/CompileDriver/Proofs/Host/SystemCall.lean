import CompileDriver.Proofs.Host.Steps

/-!
# What system calls do

A system call that acquires something first uses up a refusal; then it either
leaves the host as it is or makes one change, and in both cases it ends with a
turn of the reader threads.  The first part of this module says which change
each call makes when it succeeds.  The second part derives that every call
spares the foreign numbers when it is not made on one of them.
-/

namespace CompileDriver

/-- The numbers that the two ends of a new pipe get. -/
def DescriptorTable.pipeEnds (table : DescriptorTable) (name : Nat) : Nat × Nat :=
  (table.lowestFree, (table.occupy ⟨.pipeReader name, false⟩).lowestFree)

/-- The table with the two ends of a new pipe. -/
def DescriptorTable.withPipe (table : DescriptorTable) (name : Nat) : DescriptorTable :=
  (table.occupy ⟨.pipeReader name, false⟩).occupy ⟨.pipeWriter name, false⟩

namespace Host

variable {host next : Host}

/-- When two steps succeed one after the other, each of them does. -/
theorem of_bind_ok {ε α β : Type} {first : Except ε α} {rest : α → Except ε β} {last : β}
    (done : first >>= rest = .ok last) :
    ∃ value, first = .ok value ∧ rest value = .ok last := by
  cases first with
  | error error => cases done
  | ok value => exact ⟨value, rfl, done⟩

theorem allocate_ok {descriptor : Descriptor} {number : Nat}
    (done : host.allocate descriptor = .ok (number, next)) :
    number = host.table.lowestFree ∧
      next = { host with table := host.table.occupy descriptor } := by
  unfold allocate nextNumber at done
  cases limited : host.numberLimit.all (host.table.lowestFree < ·) with
  | false => simp [limited] at done
  | true =>
      simp only [limited, if_true] at done
      cases done
      exact ⟨rfl, rfl⟩

theorem makePipe_ok {ends : Nat × Nat} (done : host.makePipe = .ok (ends, next)) :
    ends = host.table.pipeEnds host.pipes.length ∧
      next = { host with
        table := host.table.withPipe host.pipes.length, pipes := host.pipes ++ [[]] } := by
  unfold makePipe at done
  obtain ⟨⟨reader, middle⟩, first, done⟩ := of_bind_ok done
  obtain ⟨rfl, rfl⟩ := allocate_ok first
  obtain ⟨⟨writer, last⟩, second, done⟩ := of_bind_ok done
  obtain ⟨rfl, rfl⟩ := allocate_ok second
  cases done
  exact ⟨rfl, rfl⟩

theorem duplicate_ok {number copy : Nat} (done : host.duplicate number = .ok (copy, next)) :
    ∃ descriptor, host.table.get? number = some descriptor ∧ copy = host.table.lowestFree ∧
      next = { host with table := host.table.occupy { descriptor with inherited := false } } := by
  unfold duplicate at done
  split at done
  · cases done
  · rename_i descriptor found
    exact ⟨descriptor, found, allocate_ok done⟩

theorem redirect_ok {source target : Nat} {value : Unit}
    (done : host.redirect source target = .ok (value, next)) :
    (∃ descriptor, host.table.get? source = some descriptor) ∧
      next = { host with table := host.table.pointTo source target } := by
  unfold redirect at done
  split at done
  · cases done
  · rename_i descriptor found
    refine ⟨⟨descriptor, found⟩, ?_⟩
    simp only [DescriptorTable.pointTo, found]
    split at done
    · rename_i same
      cases done
      rw [if_pos same]
    · rename_i different
      cases done
      rw [if_neg different]

theorem openAs_ok {file : Nat → OpenFile} {number : Nat}
    (done : host.openAs file = .ok (number, next)) :
    number = host.table.lowestFree ∧
      next = { host with
        table := host.table.occupy ⟨file host.openings, false⟩
        openings := host.openings + 1 } := by
  unfold openAs at done
  obtain ⟨⟨number, middle⟩, made, done⟩ := of_bind_ok done
  obtain ⟨rfl, rfl⟩ := allocate_ok made
  cases done
  exact ⟨rfl, rfl⟩

theorem openAppending_ok {path : Path} {number : Nat}
    (done : host.openAppending path = .ok (number, next)) :
    number = host.table.lowestFree ∧ ∃ files place,
      next = { host with
        table := host.table.occupy ⟨.entry host.openings place, false⟩
        openings := host.openings + 1
        files } := by
  unfold openAppending at done
  obtain ⟨valid, -, done⟩ := of_bind_ok done
  obtain ⟨room, -, done⟩ := of_bind_ok done
  obtain ⟨⟨files, place⟩, -, done⟩ := of_bind_ok done
  obtain ⟨⟨number, middle⟩, made, done⟩ := of_bind_ok done
  obtain ⟨rfl, rfl⟩ := openAs_ok made
  cases done
  exact ⟨rfl, files, place, rfl⟩

theorem setPolling_ok {number : Nat} {value : Unit}
    (done : host.setPolling number = .ok (value, next)) : next = host := by
  unfold setPolling at done
  split at done <;> cases done
  rfl

theorem startReader_ok {source thread : Nat}
    (done : host.startReader source = .ok (thread, next)) :
    thread = host.threadsStarted ∧
      next = { host with
        threadSupply := host.threadSupply.map (· - 1)
        threadsStarted := host.threadsStarted + 1
        readers := host.readers ++ [{ thread := host.threadsStarted, source }] } := by
  unfold startReader at done
  split at done <;> cases done
  exact ⟨rfl, rfl⟩

end Host

namespace SystemCall

variable {α : Type}

/-- A system call fails and changes nothing, or succeeds with its change. -/
theorem perform_cases (call : Host → Except OsError (α × Host)) (host : Host) :
    (∃ error, call host = .error error ∧ perform call host = (.error error, host.endCall)) ∨
      ∃ value next, call host = .ok (value, next) ∧
        perform call host = (.ok value, next.endCall) := by
  simp only [perform, Action.bind_apply, Action.get_apply]
  cases called : call host with
  | error error => exact .inl ⟨error, rfl, rfl⟩
  | ok reached => exact .inr ⟨reached.1, reached.2, rfl, rfl⟩

/-- A call that acquires something fails or succeeds after a refusal was used
up. -/
theorem acquire_cases (call : Host → Except OsError (α × Host)) (host : Host) :
    ∃ refusals,
      (∃ error, acquire call host = (.error error, { host with refusals }.endCall)) ∨
        ∃ value next, call { host with refusals } = .ok (value, next) ∧
          acquire call host = (.ok value, next.endCall) := by
  simp only [acquire, Action.bind_apply, Action.get_apply]
  rcases waiting : host.refusals with _ | ⟨_ | error, rest⟩
  · refine ⟨[], ?_⟩
    have same : { host with refusals := [] } = host := by rw [← waiting]
    rw [same]
    rcases perform_cases call host with ⟨error, -, failed⟩ | succeeded
    · exact .inl ⟨error, failed⟩
    · exact .inr succeeded
  · refine ⟨rest, ?_⟩
    rcases perform_cases call { host with refusals := rest } with ⟨error, -, failed⟩ | succeeded
    · exact .inl ⟨error, failed⟩
    · exact .inr succeeded
  · exact ⟨rest, .inl ⟨error, rfl⟩⟩

/-- A call that is not refused is performed. -/
theorem acquire_unrefused (call : Host → Except OsError (α × Host)) {host : Host}
    (unrefused : ∀ error rest, host.refusals ≠ some error :: rest) :
    ∃ refusals, acquire call host = perform call { host with refusals } := by
  simp only [acquire, Action.bind_apply, Action.get_apply]
  rcases waiting : host.refusals with _ | ⟨_ | error, rest⟩
  · have same : { host with refusals := [] } = host := by rw [← waiting]
    exact ⟨[], by rw [same]⟩
  · exact ⟨rest, rfl⟩
  · exact absurd waiting (unrefused error rest)

/-- Giving back a file that was saved cannot fail. -/
theorem giveBack_saved {host : Host} {saved : Nat} {file : OpenFile}
    (found : host.table.file? saved = some file) (target : Nat) :
    giveBack saved target host =
      (.ok (), { host with table := host.table.pointTo saved target }.endCall) := by
  obtain ⟨descriptor, present, -⟩ := host.table.get?_of_file? found
  rcases perform_cases (·.redirect saved target) host with
    ⟨error, done, -⟩ | ⟨value, next, done, granted⟩
  · simp only [Host.redirect, present] at done
    split at done <;> cases done
  · obtain ⟨-, rfl⟩ := Host.redirect_ok done
    exact granted

theorem write_closed {host : Host} {number : Nat} (closed : host.table.file? number = none)
    (bytes : Bytes) : write number bytes host = (.error .badDescriptor, host.takeTurn) := by
  simp only [write, Action.bind_apply, Action.get_apply, closed]
  rfl

/-- Writing to an open file succeeds, which is noted, or fails with an error. -/
theorem write_open {host : Host} {number : Nat} {file : OpenFile}
    (found : host.table.file? number = some file) (bytes : Bytes) :
    write number bytes host =
      match (host.deliver file bytes).1 with
      | .ok () => (.ok (), (host.deliver file bytes).2.note (.delivered number bytes))
      | .error error => (.error error, (host.deliver file bytes).2) := by
  simp only [write, Action.bind_apply, Action.get_apply, found]
  cases (host.deliver file bytes).1 <;> rfl

/-- Writing goes past the line buffer. -/
theorem lineBuffer_write (number : Nat) (bytes : Bytes) (host : Host) :
    (write number bytes host).2.lineBuffer = host.lineBuffer := by
  cases found : host.table.file? number with
  | none =>
      rw [write_closed found]
      exact (Host.readersRan_takeTurn host).lineBuffer
  | some file =>
      rw [write_open found]
      cases (host.deliver file bytes).1 <;> exact host.lineBuffer_deliver file bytes

end SystemCall

/-! ## Sparing the foreign numbers -/

section

variable {foreign : Nat → Prop}

theorem Host.steps_endCall (host : Host) : Host.Steps foreign host host.endCall :=
  .tail (.single (.utter (.note host rfl))) (.utter (.turn _))

namespace Spares

variable {α : Type}

theorem performed {call : Host → Except OsError (α × Host)} {yields : α → Prop}
    (sound : ∀ host : Host, host.Holds foreign → ∀ value next,
      call host = .ok (value, next) → Host.Steps foreign host next ∧ yields value) :
    Spares foreign (SystemCall.perform call) fun outcome =>
      ∀ value, outcome = .ok value → yields value := by
  intro host holds
  rcases SystemCall.perform_cases call host with
    ⟨error, -, failed⟩ | ⟨value, next, done, succeeded⟩
  · rw [Discipline.GovernsAt, failed]
    exact ⟨host.steps_endCall, by simp⟩
  · obtain ⟨steps, known⟩ := sound host holds value next done
    rw [Discipline.GovernsAt, succeeded]
    exact ⟨steps.trans next.steps_endCall, by simpa using known⟩

theorem acquired {call : Host → Except OsError (α × Host)} {yields : α → Prop}
    (sound : ∀ host : Host, host.Holds foreign → ∀ value next,
      call host = .ok (value, next) → Host.Steps foreign host next ∧ yields value) :
    Spares foreign (SystemCall.acquire call) fun outcome =>
      ∀ value, outcome = .ok value → yields value := by
  intro host holds
  obtain ⟨refusals, ⟨error, failed⟩ | ⟨value, next, done, succeeded⟩⟩ :=
    SystemCall.acquire_cases call host
  · rw [Discipline.GovernsAt, failed]
    exact ⟨.trans (.single (.refusals host refusals)) (Host.steps_endCall _), by simp⟩
  · obtain ⟨steps, known⟩ := sound { host with refusals } holds value next done
    rw [Discipline.GovernsAt, succeeded]
    refine ⟨?_, by simpa using known⟩
    exact .trans (.head (.refusals host refusals) steps) next.steps_endCall

/-- A call whose value does not matter. -/
theorem acquired_any {call : Host → Except OsError (α × Host)}
    (sound : ∀ host value next, call host = .ok (value, next) → Host.Steps foreign host next) :
    Spares foreign (SystemCall.acquire call) fun _ => True :=
  .weaken
    (acquired fun host _ value next done =>
      ⟨sound host value next done, (trivial : (fun _ => True) value)⟩)
    fun _ _ => trivial

theorem pipe :
    Spares foreign SystemCall.pipe fun outcome =>
      ∀ ends, outcome = .ok ends → ¬ foreign ends.1 ∧ ¬ foreign ends.2 := by
  apply acquired
  intro host holds ends next done
  obtain ⟨rfl, rfl⟩ := Host.makePipe_ok done
  let reader : Descriptor := ⟨.pipeReader host.pipes.length, false⟩
  let writer : Descriptor := ⟨.pipeWriter host.pipes.length, false⟩
  let middle : Host := { host with table := host.table.occupy reader }
  have first : Host.Step foreign host middle := .occupy host (.inl rfl)
  have second : Host.Step foreign middle { middle with table := middle.table.occupy writer } :=
    .occupy middle (.inl rfl)
  refine ⟨.tail (.tail (.single first) second) (.addPipe _), holds.own_lowestFree, ?_⟩
  exact (first.holds holds).own_lowestFree

theorem duplicate {number : Nat} (own : ¬ foreign number) :
    Spares foreign (SystemCall.duplicate number) fun outcome =>
      ∀ copy, outcome = .ok copy → ¬ foreign copy := by
  apply acquired
  intro host holds copy next done
  obtain ⟨descriptor, found, rfl, rfl⟩ := Host.duplicate_ok done
  have known := host.table.file?_of_get? found
  exact ⟨.single (.occupy host (.inr ⟨number, own, known⟩)), holds.own_lowestFree⟩

theorem steps_redirect {source target : Nat} (ownSource : ¬ foreign source)
    (ownTarget : ¬ foreign target) (host : Host) (value : Unit) (next : Host)
    (done : host.redirect source target = .ok (value, next)) : Host.Steps foreign host next := by
  obtain ⟨-, rfl⟩ := Host.redirect_ok done
  exact .single (.pointTo host ownSource ownTarget)

theorem redirect {source target : Nat} (ownSource : ¬ foreign source)
    (ownTarget : ¬ foreign target) :
    Spares foreign (SystemCall.redirect source target) fun _ => True :=
  acquired_any (steps_redirect ownSource ownTarget)

theorem giveBack {saved target : Nat} (ownSaved : ¬ foreign saved) (ownTarget : ¬ foreign target) :
    Spares foreign (SystemCall.giveBack saved target) fun _ => True :=
  .weaken
    (performed fun host _ value next done =>
      ⟨steps_redirect ownSaved ownTarget host value next done, trivial⟩)
    fun _ _ => trivial

theorem close {number : Nat} (own : ¬ foreign number) :
    Spares foreign (SystemCall.close number) fun _ => True :=
  fun host _ => ⟨.head (.close host own) (Host.steps_endCall _), trivial⟩

theorem openDiscard :
    Spares foreign SystemCall.openDiscard fun outcome =>
      ∀ number, outcome = .ok number → ¬ foreign number := by
  apply acquired
  intro host holds number next done
  obtain ⟨rfl, rfl⟩ := Host.openAs_ok done
  exact ⟨.head (.occupy host (.inl rfl)) (.single (.opened _)), holds.own_lowestFree⟩
theorem setPolling (number : Nat) :
    Spares foreign (SystemCall.setPolling number) fun _ => True := by
  refine acquired_any fun host value next done => ?_
  rw [Host.setPolling_ok done]

theorem startReader (source : Nat) :
    Spares foreign (SystemCall.startReader source) fun _ => True :=
  acquired_any fun _ _ _ done => .single (.startReader done)

theorem joinReader (thread : Nat) :
    Spares foreign (SystemCall.joinReader thread) fun _ => True :=
  fun host _ => ⟨.single (.join host thread), trivial⟩

theorem elapsed : Spares foreign SystemCall.elapsed fun _ => True := by
  refine .look fun host holds => ?_
  split
  · exact .value trivial
  · exact ⟨.single (.measured host _), trivial⟩

end Spares

theorem Speaks.write {number : Nat} (own : ¬ foreign number) (bytes : Bytes) :
    Speaks foreign (SystemCall.write number bytes) fun _ => True := by
  intro host _
  refine ⟨?_, trivial⟩
  cases found : host.table.file? number with
  | none =>
      rw [SystemCall.write_closed found]
      exact .single (.turn host)
  | some file =>
      have delivered : Host.Utterance foreign host (host.deliver file bytes).2 :=
        .deliver host own found bytes
      rw [SystemCall.write_open found]
      split
      · exact .tail (.single delivered) (.note _ rfl)
      · exact .single delivered

theorem SystemCall.write_utterances (number : Nat) (bytes : Bytes) (host : Host) :
    Host.Utterances (fun _ => False) host (write number bytes host).2 :=
  (Speaks.write not_false bytes host trivial).1

end

end CompileDriver
