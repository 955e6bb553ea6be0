import CompileDriver.Proofs.Action
import CompileDriver.Proofs.Host.SystemCall

/-!
# What requests can tell about a host

What a request does between the calls on its session depends on a few things only: what
every number refers to, which acquisitions will fail, and where records go and what becomes
of a panic.  `Host.view` collects them.  It leaves out what tells one process from another
that does the same: the numbers of pipes, openings and threads, what is queued, held back
and delivered, and the past.

Writing does not change the view, and every system call of the guards makes the same of
hosts with the same view.
-/

namespace CompileDriver

/-- What an open file is, whatever the number of its pipe or of its opening. -/
inductive FileKind
  | emptyInput
  | initial (stream : Stream)
  | discard
  | pipeReader
  | pipeWriter
  | entry (place : Place)
  deriving Repr, DecidableEq

def OpenFile.kind : OpenFile → FileKind
  | .emptyInput => .emptyInput
  | .initial stream => .initial stream
  | .discard _ => .discard
  | .pipeReader _ => .pipeReader
  | .pipeWriter _ => .pipeWriter
  | .entry _ place => .entry place

/-- What can be seen of a descriptor. -/
structure Sight where
  kind : FileKind
  inherited : Bool
  deriving Repr, DecidableEq

def Descriptor.sight (descriptor : Descriptor) : Sight :=
  { kind := descriptor.file.kind, inherited := descriptor.inherited }

/-! ## Tables -/

namespace DescriptorTable

/-- What can be seen of every number. -/
def sights (table : DescriptorTable) (number : Nat) : Option Sight :=
  (table.get? number).map Descriptor.sight

variable (table : DescriptorTable)

@[simp]
theorem sights_put (number : Nat) (descriptor : Descriptor) :
    (table.put number descriptor).sights =
      Function.update table.sights number (some descriptor.sight) := by
  funext other
  simp only [sights, get?_put, Function.update_apply]
  split <;> rfl

@[simp]
theorem sights_close (number : Nat) :
    (table.close number).sights = Function.update table.sights number none := by
  funext other
  simp only [sights, get?_close, Function.update_apply]
  split <;> rfl

theorem sights_eq_none_iff (number : Nat) :
    table.sights number = none ↔ table.get? number = none := by
  simp [sights]

/-- Free numbers beyond the last descriptor cannot be seen. -/
theorem sights_append_free (slots : List (Option Descriptor)) (count : Nat) :
    sights ⟨slots ++ List.replicate count none⟩ = sights ⟨slots⟩ := by
  funext number
  simp only [sights, get?, List.getD_eq_getElem?_getD]
  by_cases inside : number < slots.length
  · rw [List.getElem?_append_left inside]
  · have outside : slots.length ≤ number := Nat.le_of_not_lt inside
    rw [List.getElem?_append_right outside, List.getElem?_replicate,
      List.getElem?_eq_none outside]
    split <;> rfl

/-- Whether a number is free can be seen. -/
theorem isFree_of_sights {one two : DescriptorTable} (same : one.sights = two.sights)
    (number : Nat) : one.get? number = none ↔ two.get? number = none := by
  rw [← sights_eq_none_iff, ← sights_eq_none_iff, same]

/-- The lowest free number can be seen. -/
theorem lowestFree_of_sights {one two : DescriptorTable} (same : one.sights = two.sights) :
    one.lowestFree = two.lowestFree := by
  apply Nat.le_antisymm
  · exact one.lowestFree_le ((isFree_of_sights same _).mpr two.get?_lowestFree)
  · exact two.lowestFree_le ((isFree_of_sights same _).mp one.get?_lowestFree)

/-- Beyond the last descriptor every number is free. -/
theorem freeAfter_of_free {slots : List (Option Descriptor)}
    (free : ∀ index, slots.getD index none = none) (number count : Nat) :
    freeAfter slots number count = number + count := by
  induction slots generalizing number count with
  | nil => rfl
  | cons slot rest ih =>
      obtain rfl : slot = none := free 0
      have restFree (index : Nat) : rest.getD index none = none := free (index + 1)
      cases count with
      | zero => rfl
      | succ count =>
          rw [freeAfter, ih restFree]
          omega

/-- Counting the free numbers does not depend on what the others refer to. -/
theorem freeAfter_congr {slots others : List (Option Descriptor)}
    (same : ∀ index, slots.getD index none = none ↔ others.getD index none = none)
    (number count : Nat) : freeAfter slots number count = freeAfter others number count := by
  induction slots generalizing others number count with
  | nil =>
      have free (index : Nat) : others.getD index none = none := (same index).mp rfl
      rw [freeAfter_of_free free]
      rfl
  | cons slot rest ih =>
      cases others with
      | nil =>
          have free (index : Nat) : (slot :: rest).getD index none = none := (same index).mpr rfl
          rw [freeAfter_of_free free]
          rfl
      | cons other others =>
          have first : slot = none ↔ other = none := same 0
          have sameRest (index : Nat) :
              rest.getD index none = none ↔ others.getD index none = none :=
            same (index + 1)
          cases slot with
          | some descriptor =>
              obtain ⟨twin, rfl⟩ :=
                Option.ne_none_iff_exists'.mp (mt first.mpr (Option.some_ne_none _))
              exact ih sameRest (number + 1) count
          | none =>
              obtain rfl := first.mp rfl
              cases count with
              | zero => rfl
              | succ count => exact ih sameRest (number + 1) count

/-- So can the number above so many free ones. -/
theorem numberAbove_of_sights {one two : DescriptorTable} (same : one.sights = two.sights)
    (count : Nat) : one.numberAbove count = two.numberAbove count :=
  freeAfter_congr (isFree_of_sights same) 0 count

/-- A number that looks the same in two tables is free in both, or has descriptors that look
the same. -/
theorem get?_of_sights {one two : DescriptorTable} (same : one.sights = two.sights)
    (number : Nat) :
    (one.get? number = none ∧ two.get? number = none) ∨
      ∃ descriptor twin, one.get? number = some descriptor ∧ two.get? number = some twin ∧
        descriptor.sight = twin.sight := by
  have here := congrFun same number
  unfold sights at here
  cases found : one.get? number with
  | none =>
      rw [found] at here
      exact .inl ⟨rfl, by simpa using here.symm⟩
  | some descriptor =>
      rw [found] at here
      obtain ⟨twin, foundTwin, alike⟩ := Option.map_eq_some_iff.mp here.symm
      exact .inr ⟨descriptor, twin, rfl, foundTwin, alike.symm⟩

end DescriptorTable

/-! ## Views -/

/-- What a request can tell about a host. -/
@[ext]
structure View where
  sights : Nat → Option Sight
  numberLimit : Option Nat
  threadSupply : Option Nat
  refusals : List (Option OsError)
  threshold : Threshold
  logger : Option Logger
  panicHook : PanicHook
  crashReported : Bool

namespace Host

def view (host : Host) : View :=
  { sights := host.table.sights
    numberLimit := host.numberLimit
    threadSupply := host.threadSupply
    refusals := host.refusals
    threshold := host.threshold
    logger := host.logger
    panicHook := host.panicHook
    crashReported := host.crashReported }

/-- A request cannot tell the hosts apart. -/
abbrev Alike (one two : Host) : Prop :=
  one.view = two.view

variable {one two before after : Host}

theorem Alike.sights (alike : Alike one two) : one.table.sights = two.table.sights :=
  congrArg View.sights alike

theorem view_of_readersRan (ran : ReadersRan before after) : after.view = before.view := by
  rw [ran.rest]
  rfl

theorem view_deliver (host : Host) (file : OpenFile) (bytes : Bytes) :
    (host.deliver file bytes).2.view = host.view := by
  rcases host.deliver_cases file bytes with ⟨pipe, -, fed⟩ | ⟨_, _, ran⟩
  · rw [fed, (fed_feed pipe host bytes).rest]
    rfl
  · rw [view_of_readersRan ran]
    rfl

theorem Utterance.view {foreign : Nat → Prop} (utterance : Utterance foreign before after) :
    after.view = before.view := by
  cases utterance with
  | turn => exact view_of_readersRan (readersRan_takeTurn before)
  | deliver => exact view_deliver before _ _
  | note | lineBuffer | buffers => rfl

@[simp]
theorem view_endCall (host : Host) : host.endCall.view = host.view := by
  rw [endCall, view_of_readersRan (readersRan_takeTurn _)]
  rfl

theorem Alike.endCall (alike : Alike one two) : Alike one.endCall two.endCall :=
  one.view_endCall.trans (alike.trans two.view_endCall.symm)

/-- The hosts stay alike while their tables change to ones that look the same. -/
theorem Alike.tables (alike : Alike one two) {table other : DescriptorTable}
    (same : table.sights = other.sights) :
    Alike { one with table } { two with table := other } := by
  have changed : { one.view with sights := table.sights } =
      { two.view with sights := other.sights } := by rw [alike, same]
  exact changed

end Host

/-- To do nothing that a request can see. -/
def unseen : Discipline where
  needs _ := True
  allows before after := after.view = before.view
  refl _ := rfl
  trans start rest := rest.trans start
  keeps _ _ := trivial

theorem Speaks.unseen {α : Type} {foreign : Nat → Prop} {action : Action α} {yields : α → Prop}
    (speaks : Speaks foreign action yields) : unseen.Governs action yields := by
  apply speaks.relax fun _ _ => trivial
  intro before after utterances
  induction utterances with
  | refl => rfl
  | tail _ utterance ih => exact utterance.view.trans ih

/-! ## Actions that cannot be seen -/

namespace Abreast

variable {α β : Type} {one : Action α} {two : Action β} {yields : α → Prop} {other : β → Prop}

/-- What cannot be seen need not be the same. -/
theorem apart (first : unseen.Governs one yields) (second : unseen.Governs two other) :
    Abreast Host.Alike one two fun _ _ => True := by
  intro before twin alike
  have same : (one before).2.view = before.view := (first before trivial).1
  have sameTwin : (two twin).2.view = twin.view := (second twin trivial).1
  exact ⟨same.trans (alike.trans sameTwin.symm), trivial⟩

/-- Writing cannot be seen. -/
theorem speaking (first : Speaks (fun _ => False) one yields)
    (second : Speaks (fun _ => False) two other) : Abreast Host.Alike one two fun _ _ => True :=
  apart first.unseen second.unseen

end Abreast

end CompileDriver
