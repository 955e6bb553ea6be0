import CompileDriver.Proofs.Action
import CompileDriver.Proofs.Host.Channel
import Mathlib.Logic.Relation

/-!
# Steps of the process

What the guards of the standard streams and the log do to a host, one small
change at a time.  A step is taken apart from some foreign numbers: descriptors
that it neither changes nor writes to.  Steps that only write change no
descriptor at all.

Two disciplines come from this: an action speaks when it only writes, and it
spares the foreign numbers when it only takes steps apart from them.
-/

namespace CompileDriver

/-- Whether an event has nothing to do with sessions. -/
def Event.isRoutine : Event → Bool
  | .sessionCall _ | .sessionReturn _ _ => false
  | _ => true

/-- Whether a file is an entry of the file tree. -/
def OpenFile.isEntry : OpenFile → Bool
  | .entry _ _ => true
  | _ => false

namespace Host

variable {foreign : Nat → Prop}

/-- One small change of a host by writing, apart from the foreign numbers. -/
inductive Utterance (foreign : Nat → Prop) : Host → Host → Prop
  | turn (host : Host) : Utterance foreign host host.takeTurn
  | note (host : Host) {event : Event} (routine : event.isRoutine = true) :
      Utterance foreign host (host.note event)
  | deliver (host : Host) {number : Nat} {file : OpenFile} (own : ¬ foreign number)
      (found : host.table.file? number = some file) (bytes : Bytes) :
      Utterance foreign host (host.deliver file bytes).2
  | lineBuffer (host : Host) (lineBuffer : Bytes) :
      Utterance foreign host { host with lineBuffer }
  | buffers (host : Host) (buffers : List Bytes) : Utterance foreign host { host with buffers }

/-- One small change of a host, apart from the foreign numbers. -/
inductive Step (foreign : Nat → Prop) : Host → Host → Prop
  | utter {before after : Host} (utterance : Utterance foreign before after) :
      Step foreign before after
  | refusals (host : Host) (refusals : List (Option OsError)) :
      Step foreign host { host with refusals }
  /-- A new descriptor is for something that is no entry of the file tree, or
  for the open file of another number. -/
  | occupy (host : Host) {descriptor : Descriptor}
      (known : descriptor.file.isEntry = false ∨
        ∃ number, ¬ foreign number ∧ host.table.file? number = some descriptor.file) :
      Step foreign host { host with table := host.table.occupy descriptor }
  | pointTo (host : Host) {source target : Nat} (ownSource : ¬ foreign source)
      (ownTarget : ¬ foreign target) :
      Step foreign host { host with table := host.table.pointTo source target }
  | close (host : Host) {number : Nat} (own : ¬ foreign number) :
      Step foreign host { host with table := host.table.close number }
  | addPipe (host : Host) : Step foreign host { host with pipes := host.pipes ++ [[]] }
  | opened (host : Host) : Step foreign host { host with openings := host.openings + 1 }
  | startReader {host next : Host} {source thread : Nat}
      (started : host.startReader source = .ok (thread, next)) : Step foreign host next
  | askToStop (host : Host) (thread : Nat) : Step foreign host (host.askToStop thread)
  | join (host : Host) (thread : Nat) : Step foreign host (host.join thread).2
  | measured (host : Host) (measurements : List Duration) :
      Step foreign host { host with measurements }

/-- Any number of small changes by writing. -/
abbrev Utterances (foreign : Nat → Prop) : Host → Host → Prop :=
  Relation.ReflTransGen (Utterance foreign)

/-- Any number of small changes. -/
abbrev Steps (foreign : Nat → Prop) : Host → Host → Prop :=
  Relation.ReflTransGen (Step foreign)

theorem Utterances.steps {before after : Host} (utterances : Utterances foreign before after) :
    Steps foreign before after :=
  utterances.lift id fun _ _ => .utter

/-- All foreign numbers are open. -/
def Holds (foreign : Nat → Prop) (host : Host) : Prop :=
  ∀ number, foreign number → host.table.file? number ≠ none

theorem Holds.own_lowestFree {host : Host} (holds : host.Holds foreign) :
    ¬ foreign host.table.lowestFree :=
  fun isForeign => holds _ isForeign host.table.file?_lowestFree

/-! ## Tables along steps -/

/-- Delivering feeds a pipe, or it adds to an initial target or to the file tree at most,
before the readers run. -/
theorem deliver_cases (host : Host) (file : OpenFile) (bytes : Bytes) :
    (∃ pipe, file = .pipeWriter pipe ∧ (host.deliver file bytes).2 = feed pipe host bytes) ∨
      ∃ received files, ReadersRan { host with received, files } (host.deliver file bytes).2 := by
  cases file with
  | pipeWriter pipe =>
      simp only [deliver]
      split
      · exact .inl ⟨pipe, rfl, rfl⟩
      · exact .inr ⟨host.received, host.files, readersRan_takeTurn _⟩
  | initial stream =>
      exact .inr ⟨host.received.modify stream (· ++ bytes), host.files, readersRan_takeTurn _⟩
  | entry opening place =>
      exact .inr ⟨host.received, host.files.append place bytes, readersRan_takeTurn _⟩
  | emptyInput => exact .inr ⟨host.received, host.files, readersRan_takeTurn _⟩
  | pipeReader pipe => exact .inr ⟨host.received, host.files, readersRan_takeTurn _⟩
  | discard opening => exact .inr ⟨host.received, host.files, readersRan_takeTurn _⟩

theorem table_deliver (host : Host) (file : OpenFile) (bytes : Bytes) :
    (host.deliver file bytes).2.table = host.table := by
  rcases host.deliver_cases file bytes with ⟨pipe, -, fed⟩ | ⟨_, _, ran⟩
  · rw [fed]
    exact (fed_feed pipe host bytes).table
  · exact ran.table

theorem lineBuffer_deliver (host : Host) (file : OpenFile) (bytes : Bytes) :
    (host.deliver file bytes).2.lineBuffer = host.lineBuffer := by
  rcases host.deliver_cases file bytes with ⟨pipe, -, fed⟩ | ⟨_, _, ran⟩
  · rw [fed, (fed_feed pipe host bytes).rest]
  · exact ran.lineBuffer

theorem table_join (host : Host) (thread : Nat) : (host.join thread).2.table = host.table :=
  (readersRan_await host _).table

theorem table_startReader {host next : Host} {source thread : Nat}
    (started : host.startReader source = .ok (thread, next)) : next.table = host.table := by
  unfold startReader at started
  split at started
  · cases started
  · cases started
    rfl

theorem schedule_startReader {host next : Host} {source thread : Nat}
    (started : host.startReader source = .ok (thread, next)) : next.schedule = host.schedule := by
  unfold startReader at started
  split at started
  · cases started
  · cases started
    rfl

/-- Writing changes no descriptor. -/
theorem Utterance.table {before after : Host} (utterance : Utterance foreign before after) :
    after.table = before.table := by
  cases utterance with
  | turn => exact (readersRan_takeTurn before).table
  | deliver => exact table_deliver before _ _
  | note | lineBuffer | buffers => rfl

theorem Utterances.table {before after : Host} (utterances : Utterances foreign before after) :
    after.table = before.table := by
  induction utterances with
  | refl => rfl
  | tail _ utterance ih => exact utterance.table.trans ih

/-- A step changes no foreign number. -/
theorem Step.foreign_kept {before after : Host} (step : Step foreign before after)
    (holds : before.Holds foreign) {number : Nat} (isForeign : foreign number) :
    after.table.file? number = before.table.file? number := by
  cases step with
  | utter utterance => rw [utterance.table]
  | occupy =>
      rw [before.table.file?_occupy, if_neg]
      rintro rfl
      exact holds.own_lowestFree isForeign
  | pointTo ownSource ownTarget =>
      apply before.table.file?_pointTo_of_ne
      rintro rfl
      exact ownTarget isForeign
  | close own =>
      rw [before.table.file?_close, if_neg]
      rintro rfl
      exact own isForeign
  | startReader started => rw [table_startReader started]
  | join thread => rw [table_join]
  | refusals | addPipe | opened | askToStop | measured => rfl

theorem Step.holds {before after : Host} (step : Step foreign before after)
    (holds : before.Holds foreign) : after.Holds foreign := by
  intro number isForeign
  rw [step.foreign_kept holds isForeign]
  exact holds number isForeign

theorem Steps.holds {before after : Host} (steps : Steps foreign before after)
    (holds : before.Holds foreign) : after.Holds foreign := by
  induction steps with
  | refl => exact holds
  | tail _ step ih => exact step.holds ih

/-! ## Readers along steps -/

/-- Writing leaves the threads what they have read. -/
theorem Utterance.collects {before after : Host} (utterance : Utterance foreign before after) :
    Collects before after := by
  cases utterance with
  | turn => exact (readersRan_takeTurn before).collects
  | @deliver _ file own found bytes =>
      rcases before.deliver_cases file bytes with ⟨pipe, -, fed⟩ | ⟨_, _, ran⟩
      · rw [fed]
        exact (fed_feed pipe before bytes).collects
      · exact ran.collects
  | note | lineBuffer | buffers => exact .of_readers rfl

theorem Utterances.collects {before after : Host} (utterances : Utterances foreign before after) :
    Collects before after := by
  induction utterances with
  | refl => exact .refl _
  | tail _ utterance ih => exact ih.trans utterance.collects

/-- Moves that are to come have been to come before. -/
theorem Step.schedule_suffix {before after : Host} (step : Step foreign before after) :
    after.schedule <:+ before.schedule := by
  cases step with
  | utter utterance =>
      cases utterance with
      | turn => exact (readersRan_takeTurn before).schedule_suffix
      | @deliver _ file own found bytes =>
          rcases before.deliver_cases file bytes with ⟨pipe, -, fed⟩ | ⟨_, _, ran⟩
          · rw [fed]
            exact (fed_feed pipe before bytes).schedule_suffix
          · exact ran.schedule_suffix
      | note | lineBuffer | buffers => exact List.suffix_refl _
  | startReader started => exact schedule_startReader started ▸ List.suffix_refl _
  | join thread => exact (readersRan_await before _).schedule_suffix
  | refusals | occupy | pointTo | close | addPipe | opened | askToStop | measured =>
      exact List.suffix_refl _

theorem Steps.schedule_suffix {before after : Host} (steps : Steps foreign before after) :
    after.schedule <:+ before.schedule := by
  induction steps with
  | refl => exact List.suffix_refl _
  | tail _ step ih => exact step.schedule_suffix.trans ih

/-! ## Openings along steps -/

theorem Utterance.openings {before after : Host} (utterance : Utterance foreign before after) :
    after.openings = before.openings := by
  cases utterance with
  | turn => rw [(readersRan_takeTurn before).rest]
  | @deliver _ file own found bytes =>
      rcases before.deliver_cases file bytes with ⟨pipe, -, fed⟩ | ⟨_, _, ran⟩
      · rw [fed, (fed_feed pipe before bytes).rest]
      · rw [ran.rest]
  | note | lineBuffer | buffers => rfl

/-- Files are only opened one after the other. -/
theorem Step.openings_le {before after : Host} (step : Step foreign before after) :
    before.openings ≤ after.openings := by
  cases step with
  | utter utterance => exact Nat.le_of_eq utterance.openings.symm
  | opened => exact Nat.le_succ _
  | startReader started =>
      unfold Host.startReader at started
      split at started <;> cases started
      exact Nat.le_refl _
  | join thread => exact Nat.le_of_eq (by rw [Host.join, (readersRan_await before _).rest])
  | refusals | occupy | pointTo | close | addPipe | askToStop | measured => exact Nat.le_refl _

theorem Steps.openings_le {before after : Host} (steps : Steps foreign before after) :
    before.openings ≤ after.openings := by
  induction steps with
  | refl => exact Nat.le_refl _
  | tail _ step ih => exact Nat.le_trans ih step.openings_le

end Host

/-! ## The rules for actions -/

variable {foreign : Nat → Prop}

/-- Only to write, and never to a foreign number. -/
def speaking (foreign : Nat → Prop) : Discipline where
  needs _ := True
  allows := Host.Utterances foreign
  refl _ := .refl
  trans := .trans
  keeps _ _ := trivial

/-- Only to take steps that spare the foreign numbers, which have to be open. -/
def sparing (foreign : Nat → Prop) : Discipline where
  needs host := host.Holds foreign
  allows := Host.Steps foreign
  refl _ := .refl
  trans := .trans
  keeps holds steps := steps.holds holds

/-- Whatever the host, the action only writes, and never to a foreign number. -/
abbrev Speaks {α : Type} (foreign : Nat → Prop) (action : Action α) (yields : α → Prop) : Prop :=
  (speaking foreign).Governs action yields

/-- Wherever the foreign numbers are open, the action spares them. -/
abbrev Spares {α : Type} (foreign : Nat → Prop) (action : Action α) (yields : α → Prop) : Prop :=
  (sparing foreign).Governs action yields

/-- Writing spares the foreign numbers. -/
theorem Speaks.spares {α : Type} {action : Action α} {yields : α → Prop}
    (speaks : Speaks foreign action yields) : Spares foreign action yields :=
  speaks.relax (fun _ _ => trivial) fun _ _ utterances => utterances.steps

end CompileDriver
