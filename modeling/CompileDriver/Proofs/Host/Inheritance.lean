import CompileDriver.Proofs.Host.Routine
import Mathlib.Algebra.Order.Group.Multiset
import Mathlib.Tactic.Abel

/-!
# What programs receive

A program that is started receives the open files of the descriptors that are inherited, under
the numbers that they have.  Guards point the streams at other files and hold further
descriptors while they do; `Guarded` says what they may have made of the table by then.

`Balances` is a triple for routines that counts what is held: the routine finds descriptors
that are held and leaves others, in both cases exactly those that the assertion gives.
-/

namespace CompileDriver

/-- The open file that a program which is started now receives under a number. -/
def DescriptorTable.passedOn (table : DescriptorTable) (number : Nat) : Option OpenFile :=
  ((table.get? number).filter Descriptor.inherited).map Descriptor.file

theorem DescriptorTable.passedOn_eq_some_iff (table : DescriptorTable) (number : Nat)
    (file : OpenFile) :
    table.passedOn number = some file ↔ table.get? number = some ⟨file, true⟩ := by
  rw [passedOn]
  rcases table.get? number with _ | ⟨other, _ | _⟩ <;> simp

/-- A program does not receive a stream exactly when nothing is passed on under its number. -/
theorem Spawn.mem_closedStreams_iff (host : Host) (stream : Stream) :
    stream ∈ closedStreams host ↔ host.table.passedOn stream.number = none := by
  have either : stream ∈ [Stream.stdout, .stderr] := by cases stream <;> decide
  rw [closedStreams, List.mem_filter, DescriptorTable.passedOn]
  rcases host.table.get? stream.number with _ | ⟨file, _ | _⟩ <;> simp [either]

/-- A number is pointed at a file and inherited, or nothing happens. -/
theorem DescriptorTable.pointTo_cases (table : DescriptorTable) (source target : Nat) :
    table.pointTo source target = table ∨
      ∃ file, table.pointTo source target = table.put target ⟨file, true⟩ := by
  unfold pointTo
  split
  · exact .inl rfl
  · rename_i descriptor found
    split
    · exact .inl rfl
    · exact .inr ⟨descriptor.file, rfl⟩

/-- To change no descriptor. -/
def steadiness : Discipline where
  needs _ := True
  allows before after := after.table = before.table
  refl _ := rfl
  trans first second := second.trans first
  keeps _ _ := trivial

theorem steadiness_letsRun : steadiness.LetsRun where
  anywhere _ := trivial
  utterances utterances := utterances.table
  files _ _ := rfl
  numberLimit _ _ := rfl

/-! ## Tables of a process with guards -/

/-- What guards that hold the numbers `held` have made of a table.  Programs receive the
streams; what is held programs do not receive. -/
structure Guarded (origin : DescriptorTable) (held : Multiset Nat) (now : DescriptorTable) :
    Prop where
  streams : ∀ stream : Stream, ∃ file, now.get? stream.number = some ⟨file, true⟩
  apart : held.Nodup
  wasFree : ∀ number ∈ held, origin.get? number = none
  hidden : ∀ number ∈ held, ∃ file, now.get? number = some ⟨file, false⟩
  others : ∀ number, (∀ stream : Stream, number ≠ stream.number) → number ∉ held →
    now.get? number = origin.get? number

namespace Guarded

variable {origin now : DescriptorTable} {held : Multiset Nat}

theorem initially (inherited : ∀ stream : Stream, origin.passedOn stream.number ≠ none) :
    Guarded origin 0 origin where
  streams stream := by
    obtain ⟨file, received⟩ := Option.ne_none_iff_exists'.mp (inherited stream)
    exact ⟨file, (origin.passedOn_eq_some_iff _ _).mp received⟩
  apart := Multiset.nodup_zero
  wasFree number member := absurd member (Multiset.notMem_zero number)
  hidden number member := absurd member (Multiset.notMem_zero number)
  others _ _ _ := rfl

theorem ne_stream (guarded : Guarded origin held now) {number : Nat} (member : number ∈ held)
    (stream : Stream) : number ≠ stream.number := by
  rintro rfl
  obtain ⟨file, received⟩ := guarded.streams stream
  obtain ⟨other, hidden⟩ := guarded.hidden _ member
  cases received.symm.trans hidden

/-- A new descriptor is held. -/
theorem occupy (guarded : Guarded origin held now) (file : OpenFile) :
    Guarded origin ({now.lowestFree} + held) (now.occupy ⟨file, false⟩) := by
  have isFree := now.get?_lowestFree
  have notStream (stream : Stream) : stream.number ≠ now.lowestFree := by
    obtain ⟨file, received⟩ := guarded.streams stream
    intro same
    rw [same, isFree] at received
    cases received
  have notHeld : now.lowestFree ∉ held := by
    intro member
    obtain ⟨file, hidden⟩ := guarded.hidden _ member
    cases isFree.symm.trans hidden
  have get? (number : Nat) : (now.occupy ⟨file, false⟩).get? number =
      if number = now.lowestFree then some ⟨file, false⟩ else now.get? number :=
    now.get?_put _ _ _
  constructor
  · intro stream
    rw [get?, if_neg (notStream stream)]
    exact guarded.streams stream
  · exact Multiset.nodup_cons.mpr ⟨notHeld, guarded.apart⟩
  · intro number member
    rcases Multiset.mem_cons.mp member with rfl | earlier
    · rw [← guarded.others _ (fun stream => (notStream stream).symm) notHeld, isFree]
    · exact guarded.wasFree number earlier
  · intro number member
    rw [get?]
    split
    · exact ⟨file, rfl⟩
    · rename_i different
      exact guarded.hidden number ((Multiset.mem_cons.mp member).resolve_left different)
  · intro number apart unheld
    obtain ⟨different, before⟩ := not_or.mp fun either => unheld (Multiset.mem_cons.mpr either)
    rw [get?, if_neg different]
    exact guarded.others number apart before

/-- Pointing a stream anywhere leaves it to be received. -/
theorem pointTo (guarded : Guarded origin held now) (source : Nat) (stream : Stream) :
    Guarded origin held (now.pointTo source stream.number) := by
  rcases now.pointTo_cases source stream.number with same | ⟨file, pointed⟩
  · rwa [same]
  rw [pointed]
  have kept {number : Nat} (different : number ≠ stream.number) :
      (now.put stream.number ⟨file, true⟩).get? number = now.get? number := by
    rw [now.get?_put, if_neg different]
  constructor
  · intro other
    by_cases isStream : other = stream
    · exact ⟨file, by rw [isStream, now.get?_put, if_pos rfl]⟩
    · rw [kept fun same => isStream (Stream.number_injective same)]
      exact guarded.streams other
  · exact guarded.apart
  · exact guarded.wasFree
  · intro number member
    rw [kept (guarded.ne_stream member stream)]
    exact guarded.hidden number member
  · intro number apart unheld
    rw [kept (apart stream)]
    exact guarded.others number apart unheld

/-- What is closed is not held any more. -/
theorem close {number : Nat} (guarded : Guarded origin ({number} + held) now) :
    Guarded origin held (now.close number) := by
  have member : number ∈ {number} + held := Multiset.mem_cons_self number held
  obtain ⟨notHeld, apart⟩ := Multiset.nodup_cons.mp guarded.apart
  have kept {other : Nat} (different : other ≠ number) :
      (now.close number).get? other = now.get? other := by
    rw [now.get?_close, if_neg different]
  constructor
  · intro stream
    rw [kept (guarded.ne_stream member stream).symm]
    exact guarded.streams stream
  · exact apart
  · exact fun other left => guarded.wasFree other (Multiset.mem_cons_of_mem left)
  · intro other left
    rw [kept fun same => notHeld (same ▸ left)]
    exact guarded.hidden other (Multiset.mem_cons_of_mem left)
  · intro other apart unheld
    by_cases same : other = number
    · rw [same, now.get?_close, if_pos rfl, guarded.wasFree number member]
    · rw [kept same]
      refine guarded.others other apart fun earlier => ?_
      exact (Multiset.mem_cons.mp earlier).elim same unheld

/-- The turn of the readers at the end of a call changes no descriptor. -/
theorem endCall {host : Host} (guarded : Guarded origin held host.table) :
    Guarded origin held host.endCall.table := by
  rwa [Host.endCall, (Host.readersRan_takeTurn _).table]

end Guarded

/-! ## Counting what is held -/

/-- What is held after an attempt. -/
def heldAfter {ε α : Type} (failed : Multiset Nat) (succeeded : α → Multiset Nat) :
    Except ε α → Multiset Nat
  | .error _ => failed
  | .ok value => succeeded value

section

variable {α β : Type}

/-- Where the numbers `held` are held at first, `left value` are held in the end, and some are
in every state between. -/
def Balances (origin : DescriptorTable) (held : Multiset Nat) (routine : Routine α)
    (left : α → Multiset Nat) : Prop :=
  Routine.Maintains Host.table (fun now => ∃ some, Guarded origin some now)
    (fun value => Guarded origin (left value)) (Guarded origin held) routine

namespace Balances

variable {origin : DescriptorTable} {held : Multiset Nat} {left : α → Multiset Nat}
  {routine : Routine α}

theorem reached (balances : Balances origin held routine left) {before now : Host}
    (guarded : Guarded origin held before.table) {rest : Routine α}
    (reaches : Routine.Reaches routine before rest now) :
    (∃ some, Guarded origin some now.table) ∧
      ∀ value, rest = .done value → Guarded origin (left value) now.table := by
  obtain ⟨middle, kept, known⟩ :=
    Routine.Maintains.reached balances Routine.Interrupts.table guarded reaches
  refine ⟨kept.invariant_of known, ?_⟩
  rintro value rfl
  exact (kept _ known).2

/-- What is held can be counted in another order. -/
theorem regroup {before : Multiset Nat} (balances : Balances origin held routine left)
    (same : before = held) : Balances origin before routine left :=
  same ▸ balances

protected theorem pure {value : α} (same : held = left value) :
    Balances origin held (Pure.pure value) left :=
  Routine.Maintains.pure (fun _ guarded => ⟨held, guarded⟩) fun _ guarded => same ▸ guarded

protected theorem bind {next : α → Routine β} {last : β → Multiset Nat}
    (first : Balances origin held routine left)
    (rest : ∀ value, Balances origin (left value) (next value) last) :
    Balances origin held (routine >>= next) last :=
  Routine.Maintains.bind first rest

protected theorem call {action : Action α}
    (effect : ∀ host : Host, Guarded origin held host.table →
      Guarded origin (left (action host).1) (action host).2.table) :
    Balances origin held (Routine.call action) left :=
  Routine.Maintains.call (fun _ guarded => ⟨held, guarded⟩)
    (fun value _ guarded => ⟨left value, guarded⟩) effect

theorem steady {action : Action α} (steady : steadiness.Governs action fun _ => True) :
    Balances origin held (Routine.call action) fun _ => held := by
  refine .call fun host guarded => ?_
  have same : (action host).2.table = host.table := (steady host trivial).1
  rwa [same]

theorem speaks {action : Action α} (speaks : Speaks (fun _ => False) action fun _ => True) :
    Balances origin held (Routine.call action) fun _ => held :=
  steady (steadiness_letsRun.speaks speaks)

/-! ### System calls -/

theorem acquire {call : Host → Except OsError (α × Host)} {succeeded : α → Multiset Nat}
    (sound : ∀ host value next, Guarded origin held host.table → call host = .ok (value, next) →
      Guarded origin (succeeded value) next.table) :
    Balances origin held (Routine.call (SystemCall.acquire call)) (heldAfter held succeeded) := by
  refine .call fun host guarded => ?_
  obtain ⟨refusals, ⟨error, failed⟩ | ⟨value, next, done, granted⟩⟩ :=
    SystemCall.acquire_cases call host
  · have kept : Guarded origin held { host with refusals }.table := guarded
    rw [failed]
    exact kept.endCall
  · rw [granted]
    exact (sound { host with refusals } value next guarded done).endCall

/-- A call that acquires no descriptor. -/
theorem acquire_none {call : Host → Except OsError (α × Host)}
    (sound : ∀ host value next, Guarded origin held host.table → call host = .ok (value, next) →
      Guarded origin held next.table) :
    Balances origin held (Routine.call (SystemCall.acquire call)) fun _ => held := by
  have same : (heldAfter held fun _ : α => held) = fun _ : Except OsError α => held := by
    funext outcome
    cases outcome <;> rfl
  exact same ▸ acquire sound

theorem openAs (file : Nat → OpenFile) :
    Balances origin held (Routine.call (SystemCall.openAs file))
      (heldAfter held fun number => {number} + held) := by
  refine acquire fun host number next guarded done => ?_
  obtain ⟨rfl, rfl⟩ := Host.openAs_ok done
  exact guarded.occupy _

theorem openAppending (path : Path) :
    Balances origin held (Routine.call (SystemCall.openAppending path))
      (heldAfter held fun number => {number} + held) := by
  refine acquire fun host number next guarded done => ?_
  obtain ⟨rfl, files, place, rfl⟩ := Host.openAppending_ok done
  exact guarded.occupy _

theorem duplicate (number : Nat) :
    Balances origin held (Routine.call (SystemCall.duplicate number))
      (heldAfter held fun copy => {copy} + held) := by
  refine acquire fun host copy next guarded done => ?_
  obtain ⟨descriptor, -, rfl, rfl⟩ := Host.duplicate_ok done
  exact guarded.occupy _

theorem pipe :
    Balances origin held (Routine.call SystemCall.pipe)
      (heldAfter held fun ends => {ends.1} + ({ends.2} + held)) := by
  refine acquire fun host ends next guarded done => ?_
  obtain ⟨rfl, rfl⟩ := Host.makePipe_ok done
  rw [add_left_comm]
  exact (guarded.occupy _).occupy _

theorem redirect (source : Nat) (stream : Stream) :
    Balances origin held (Routine.call (SystemCall.redirect source stream.number))
      fun _ => held := by
  refine acquire_none fun host value next guarded done => ?_
  obtain ⟨-, rfl⟩ := Host.redirect_ok done
  exact guarded.pointTo source stream

theorem setPolling (number : Nat) :
    Balances origin held (Routine.call (SystemCall.setPolling number)) fun _ => held :=
  acquire_none fun _ _ _ guarded done => Host.setPolling_ok done ▸ guarded

theorem startReader (source : Nat) :
    Balances origin held (Routine.call (SystemCall.startReader source)) fun _ => held :=
  acquire_none fun _ _ _ guarded done => (Host.table_startReader done).symm ▸ guarded

theorem giveBack (saved : Nat) (stream : Stream) :
    Balances origin held (Routine.call (SystemCall.giveBack saved stream.number))
      fun _ => held := by
  refine .call fun host guarded => ?_
  rcases SystemCall.perform_cases (·.redirect saved stream.number) host with
    ⟨error, -, failed⟩ | ⟨value, next, done, granted⟩
  · rw [SystemCall.giveBack, failed]
    exact guarded.endCall
  · obtain ⟨-, rfl⟩ := Host.redirect_ok done
    rw [SystemCall.giveBack, granted]
    exact (guarded.pointTo saved stream).endCall

theorem close (number : Nat) :
    Balances origin ({number} + held) (Routine.call (SystemCall.close number)) fun _ => held :=
  .call fun _ guarded => guarded.close.endCall

end Balances

end

end CompileDriver
