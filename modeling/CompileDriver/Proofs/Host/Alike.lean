import CompileDriver.Proofs.Host.View

/-!
# System calls on hosts that look alike

What a system call of the guards makes of a host, and how it ends, depends on the view of
the host only.  So two hosts that look alike still do after the same call, and the call has
failed with the same error on both or has returned the same numbers.
-/

namespace CompileDriver

namespace Host

variable {one two : Host} {α β : Type}

/-- The results of a system call on two hosts that look alike. -/
abbrev Corresponds (values : α → β → Prop) :
    Except OsError (α × Host) → Except OsError (β × Host) → Prop :=
  SameOutcome fun reached twin => values reached.1 twin.1 ∧ Alike reached.2 twin.2

theorem nextNumber_of_alike (alike : Alike one two) : one.nextNumber = two.nextNumber := by
  have sameLimit : one.numberLimit = two.numberLimit := congrArg View.numberLimit alike
  rw [nextNumber, nextNumber, DescriptorTable.lowestFree_of_sights alike.sights, sameLimit]

theorem corresponds_allocate (alike : Alike one two) {descriptor twin : Descriptor}
    (same : descriptor.sight = twin.sight) :
    Corresponds Eq (one.allocate descriptor) (two.allocate twin) := by
  rw [allocate, allocate, nextNumber_of_alike alike]
  cases two.nextNumber with
  | error error => exact .error error
  | ok number => exact .ok ⟨rfl, alike.tables (by simp [alike.sights, same])⟩

theorem corresponds_makePipe (alike : Alike one two) :
    Corresponds Eq one.makePipe two.makePipe := by
  have reading : Corresponds Eq (one.allocate ⟨.pipeReader one.pipes.length, false⟩)
      (two.allocate ⟨.pipeReader two.pipes.length, false⟩) := corresponds_allocate alike rfl
  refine reading.bind ?_
  rintro ⟨reader, middle⟩ ⟨_, middleTwin⟩ ⟨rfl, alikeMiddle⟩
  have writing : Corresponds Eq (middle.allocate ⟨.pipeWriter one.pipes.length, false⟩)
      (middleTwin.allocate ⟨.pipeWriter two.pipes.length, false⟩) :=
    corresponds_allocate alikeMiddle rfl
  refine writing.bind ?_
  rintro ⟨writer, last⟩ ⟨_, lastTwin⟩ ⟨rfl, alikeLast⟩
  exact .ok ⟨rfl, alikeLast⟩

theorem corresponds_duplicate (alike : Alike one two) (number : Nat) :
    Corresponds Eq (one.duplicate number) (two.duplicate number) := by
  rcases DescriptorTable.get?_of_sights alike.sights number with
    ⟨isFree, isFreeTwin⟩ | ⟨descriptor, twin, found, foundTwin, same⟩
  · simp only [duplicate, isFree, isFreeTwin]
    exact .error _
  · simp only [duplicate, found, foundTwin]
    apply corresponds_allocate alike
    simpa [Descriptor.sight] using congrArg Sight.kind same

theorem corresponds_redirect (alike : Alike one two) (source target : Nat) :
    Corresponds Eq (one.redirect source target) (two.redirect source target) := by
  rcases DescriptorTable.get?_of_sights alike.sights source with
    ⟨isFree, isFreeTwin⟩ | ⟨descriptor, twin, found, foundTwin, same⟩
  · simp only [redirect, isFree, isFreeTwin]
    exact .error _
  · simp only [redirect, found, foundTwin]
    by_cases there : source = target
    · simp only [if_pos there]
      exact .ok ⟨rfl, alike⟩
    · simp only [if_neg there]
      have sameKind : descriptor.file.kind = twin.file.kind := congrArg Sight.kind same
      exact .ok ⟨rfl, alike.tables (by simp [alike.sights, Descriptor.sight, sameKind])⟩

theorem corresponds_openDiscard (alike : Alike one two) :
    Corresponds Eq (one.openAs .discard) (two.openAs .discard) := by
  have opening : Corresponds Eq (one.allocate ⟨.discard one.openings, false⟩)
      (two.allocate ⟨.discard two.openings, false⟩) := corresponds_allocate alike rfl
  refine opening.bind ?_
  rintro ⟨number, last⟩ ⟨_, lastTwin⟩ ⟨rfl, alikeLast⟩
  exact .ok ⟨rfl, alikeLast⟩

theorem corresponds_setPolling (alike : Alike one two) (number : Nat) :
    Corresponds Eq (one.setPolling number) (two.setPolling number) := by
  rcases DescriptorTable.get?_of_sights alike.sights number with
    ⟨isFree, isFreeTwin⟩ | ⟨descriptor, twin, found, foundTwin, -⟩
  · simp only [setPolling, isFree, isFreeTwin]
    exact .error _
  · simp only [setPolling, found, foundTwin]
    exact .ok ⟨rfl, alike⟩

/-- The threads that are started need not have the same numbers. -/
theorem corresponds_startReader (alike : Alike one two) (source : Nat) :
    Corresponds (fun _ _ => True) (one.startReader source) (two.startReader source) := by
  have sameSupply : one.threadSupply = two.threadSupply := congrArg View.threadSupply alike
  unfold startReader
  rw [sameSupply]
  split
  · exact .error _
  · have changed : { one.view with threadSupply := two.threadSupply.map (· - 1) } =
        { two.view with threadSupply := two.threadSupply.map (· - 1) } := by rw [alike]
    exact .ok ⟨trivial, changed⟩

/-- Waiting for a thread cannot be seen. -/
theorem unseen_joinReader (thread : Nat) :
    unseen.Governs (SystemCall.joinReader thread) fun _ => True := by
  intro host _
  have same := view_of_readersRan (readersRan_await host fun host => !host.isReading thread)
  exact ⟨same, trivial⟩

end Host

namespace Abreast

open Host

variable {α β : Type} {values : α → β → Prop}

theorem perform {call : Host → Except OsError (α × Host)} {other : Host → Except OsError (β × Host)}
    (corresponds : ∀ one two, Alike one two → Corresponds values (call one) (other two)) :
    Abreast Alike (SystemCall.perform call) (SystemCall.perform other) (SameOutcome values) := by
  intro one two alike
  simp only [AbreastAt, SystemCall.perform, Action.bind_apply, Action.get_apply]
  have same := corresponds one two alike
  generalize call one = reached at same ⊢
  generalize other two = twin at same ⊢
  cases same with
  | error error => exact ⟨alike.endCall, .error error⟩
  | ok related => exact ⟨related.2.endCall, .ok related.1⟩

theorem acquire {call : Host → Except OsError (α × Host)} {other : Host → Except OsError (β × Host)}
    (corresponds : ∀ one two, Alike one two → Corresponds values (call one) (other two)) :
    Abreast Alike (SystemCall.acquire call) (SystemCall.acquire other) (SameOutcome values) := by
  intro one two alike
  have sameRefusals : one.refusals = two.refusals := congrArg View.refusals alike
  have later (refusals : List (Option OsError)) :
      Alike { one with refusals } { two with refusals } := by
    have changed : { one.view with refusals } = { two.view with refusals } := by rw [alike]
    exact changed
  simp only [AbreastAt, SystemCall.acquire, Action.bind_apply, Action.get_apply, sameRefusals]
  rcases two.refusals with _ | ⟨_ | error, rest⟩
  · exact perform corresponds one two alike
  · exact perform corresponds _ _ (later rest)
  · exact ⟨(later rest).endCall, .error error⟩

theorem pipe : Abreast Alike SystemCall.pipe SystemCall.pipe (SameOutcome Eq) :=
  acquire fun _ _ => corresponds_makePipe

theorem duplicate (number : Nat) :
    Abreast Alike (SystemCall.duplicate number) (SystemCall.duplicate number) (SameOutcome Eq) :=
  acquire fun _ _ alike => corresponds_duplicate alike number

theorem redirect (source target : Nat) :
    Abreast Alike (SystemCall.redirect source target) (SystemCall.redirect source target)
      (SameOutcome Eq) :=
  acquire fun _ _ alike => corresponds_redirect alike source target

theorem giveBack (saved target : Nat) :
    Abreast Alike (SystemCall.giveBack saved target) (SystemCall.giveBack saved target)
      (SameOutcome Eq) :=
  perform fun _ _ alike => corresponds_redirect alike saved target

theorem openDiscard :
    Abreast Alike SystemCall.openDiscard SystemCall.openDiscard (SameOutcome Eq) :=
  acquire fun _ _ => corresponds_openDiscard

theorem setPolling (number : Nat) :
    Abreast Alike (SystemCall.setPolling number) (SystemCall.setPolling number) (SameOutcome Eq) :=
  acquire fun _ _ alike => corresponds_setPolling alike number

theorem startReader (source : Nat) :
    Abreast Alike (SystemCall.startReader source) (SystemCall.startReader source)
      (SameOutcome fun _ _ => True) :=
  acquire fun _ _ alike => corresponds_startReader alike source

theorem close (number : Nat) :
    Abreast Alike (SystemCall.close number) (SystemCall.close number) Eq := by
  intro one two alike
  have same : (one.table.close number).sights = (two.table.close number).sights := by
    simp [alike.sights]
  exact ⟨(alike.tables same).endCall, rfl⟩

/-- The clocks can show different times. -/
theorem elapsed :
    Abreast Alike SystemCall.elapsed SystemCall.elapsed fun _ _ => True := by
  have looked : unseen.Governs SystemCall.elapsed fun _ => True := by
    apply Discipline.Governs.look
    intro host _
    split
    · exact .value trivial
    · exact ⟨rfl, trivial⟩
  exact apart looked looked

end Abreast

end CompileDriver
