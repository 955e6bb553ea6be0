import CompileDriver.Proofs.Host.Opened
import CompileDriver.Proofs.Host.Spawn

/-!
# Actions in single steps

Between the system calls of one thread other threads get their turn.  A `Routine` is an action
that is taken one step at a time; taken without interruption it is that action.  `Reaches` lets
others write to the streams and read from the pipes between the steps.

`Maintains` is a triple for routines: from a precondition every state that the routine comes to
has an invariant, and where it ends there is the postcondition.  Assertions are about what is
seen of a host.  What others do changes no descriptor, so that assertions about the descriptors
and the open files survive it.
-/

namespace CompileDriver

/-- An action in single steps. -/
inductive Routine (α : Type) : Type 1
  | done (value : α)
  | step {β : Type} (action : Action β) (rest : β → Routine α)

namespace Routine

variable {α β : Type}

/-- One step. -/
def call (action : Action α) : Routine α :=
  step action done

/-- Go on when a routine has ended. -/
def andThen (next : α → Routine β) : Routine α → Routine β
  | done value => next value
  | step action rest => step action fun value => andThen next (rest value)

instance : Monad Routine where
  pure := done
  bind routine next := routine.andThen next

/-- Take all steps, one after the other. -/
def perform : Routine α → Action α
  | done value => pure value
  | step action rest => do (rest (← action)).perform

theorem perform_andThen (routine : Routine α) (next : α → Routine β) :
    (routine.andThen next).perform = routine.perform >>= fun value => (next value).perform := by
  induction routine with
  | done value => rfl
  | step action rest ih =>
      funext host
      exact congrFun (ih (action host).1) (action host).2

/-- Routines that are one after the other are the actions that they are. -/
theorem perform_bind {routine : Routine α} {action : Action α} {next : α → Routine β}
    {continued : α → Action β} (first : routine.perform = action)
    (rest : ∀ value, (next value).perform = continued value) :
    (routine >>= next).perform = action >>= continued := by
  change (routine.andThen next).perform = _
  rw [perform_andThen, first]
  exact bind_congr rest

/-- The same for a routine whose value is not used. -/
theorem perform_discard {routine : Routine α} {action : Action α} {next : Routine β}
    {continued : Action β} (first : routine.perform = action) (rest : next.perform = continued) :
    (routine >>= fun _ => next).perform = (do discard action; continued) :=
  perform_bind first fun _ => rest

/-! ## Interruptions -/

/-- What can happen between two steps of a thread: another thread writes to a stream or to a
descriptor, or flushes a stream, or a program writes to a stream that it has inherited, or a
reader thread makes a move. -/
inductive Interrupts : Host → Host → Prop
  | write (stream : Stream) (bytes : Bytes) (host : Host) :
    Interrupts host (stream.write bytes host).2
  | writeTo (number : Nat) (bytes : Bytes) (host : Host) :
      Interrupts host (SystemCall.write number bytes host).2
  | flush (stream : Stream) (host : Host) : Interrupts host (stream.flush host).2
  | inherited (stream : Stream) (bytes : Bytes) (host : Host) :
      Interrupts host (Spawn.writeInherited stream bytes host).2
  | reader (thread : Nat) (move : ReaderMove) (host : Host) :
      Interrupts host (host.move thread move)

/-- The states that a routine comes to while it is interrupted: what is left of it, and the
host. -/
inductive Reaches : Routine α → Host → Routine α → Host → Prop
  | refl (routine : Routine α) (host : Host) : Reaches routine host routine host
  | step {routine : Routine α} {host now : Host} {β : Type} {action : Action β}
      {rest : β → Routine α} (reached : Reaches routine host (.step action rest) now) :
      Reaches routine host (rest (action now).1) (action now).2
  | interrupt {routine left : Routine α} {host now next : Host}
      (reached : Reaches routine host left now) (interrupts : Interrupts now next) :
      Reaches routine host left next

/-- A number of steps that are not interrupted. -/
def advance : Nat → Routine α → Host → Routine α × Host
  | 0, routine, host => (routine, host)
  | _ + 1, done value, host => (done value, host)
  | count + 1, step action rest, host => advance count (rest (action host).1) (action host).2

theorem Reaches.advance {routine left : Routine α} {host now : Host}
    (reached : Reaches routine host left now) (count : Nat) :
    Reaches routine host (left.advance count now).1 (left.advance count now).2 := by
  induction count generalizing left now with
  | zero => exact reached
  | succ count ih =>
      cases left with
      | done value => exact reached
      | step action rest => exact ih reached.step

/-- What others do changes no descriptor. -/
theorem Interrupts.table {before after : Host} (interrupts : Interrupts before after) :
    after.table = before.table := by
  have still {β : Type} {action : Action β} {yields : β → Prop}
      (speaks : Speaks (fun _ => False) action yields) (host : Host) :
      (action host).2.table = host.table :=
    (speaks host trivial).1.table
  cases interrupts with
  | write stream bytes => exact still (Speaks.writeStream (fun _ => not_false) stream bytes) before
  | writeTo number bytes => exact still (Speaks.write not_false bytes) before
  | flush stream => exact still (Speaks.flush (fun _ => not_false) stream) before
  | inherited stream bytes =>
      exact still (Speaks.writeInherited (fun _ => not_false) stream bytes) before
  | reader thread move => exact (Host.readersRan_move before thread move).table

/-- What others do opens and closes nothing. -/
theorem Interrupts.opened {before after : Host} (interrupts : Interrupts before after) :
    after.opened = before.opened :=
  congrArg DescriptorTable.file? interrupts.table

/-! ## Triples -/

/-- What is seen of a host has the precondition at first.  Then every state that the routine
comes to has the invariant, and where it ends there is the postcondition. -/
def Maintains {σ : Type} (view : Host → σ) (invariant : σ → Prop) (post : α → σ → Prop) :
    (σ → Prop) → Routine α → Prop
  | pre, done value => ∀ seen, pre seen → invariant seen ∧ post value seen
  | pre, @step _ β action rest =>
      (∀ seen, pre seen → invariant seen) ∧
        ∃ middle : β → σ → Prop,
          Ensures (pre <| view ·) action (fun value host => middle value (view host)) ∧
            ∀ value, Maintains view invariant post (middle value) (rest value)

/-- The same for the open files. -/
abbrev Keeps (invariant : OpenFiles → Prop) (post : α → OpenFiles → Prop)
    (pre : OpenFiles → Prop) (routine : Routine α) : Prop :=
  Maintains Host.opened invariant post pre routine

namespace Maintains

variable {σ : Type} {view : Host → σ} {invariant pre : σ → Prop} {post : α → σ → Prop}
  {routine : Routine α}

theorem invariant_of (keeps : Maintains view invariant post pre routine) {seen : σ}
    (holds : pre seen) : invariant seen := by
  cases routine with
  | done value => exact (keeps seen holds).1
  | step action rest => exact keeps.1 seen holds

/-- In every state that a routine comes to, something is known that makes the rest of it keep
the invariant. -/
theorem reached (keeps : Maintains view invariant post pre routine)
    (stable : ∀ {before after}, Interrupts before after → view after = view before)
    {host now : Host} (holds : pre (view host)) {left : Routine α}
    (reaches : Reaches routine host left now) :
    ∃ middle, Maintains view invariant post middle left ∧ middle (view now) := by
  induction reaches with
  | refl => exact ⟨pre, keeps, holds⟩
  | step reaches ih =>
      obtain ⟨middle, ⟨-, after, ensures, rest⟩, known⟩ := ih holds
      exact ⟨_, rest _, ensures _ known⟩
  | interrupt reaches interrupts ih =>
      obtain ⟨middle, left, known⟩ := ih holds
      exact ⟨middle, left, stable interrupts ▸ known⟩

/-! ### Rules -/

theorem strengthen {strong : σ → Prop} (keeps : Maintains view invariant post pre routine)
    (implies : ∀ seen, strong seen → pre seen) : Maintains view invariant post strong routine := by
  cases routine with
  | done value => exact fun seen holds => keeps seen (implies seen holds)
  | step action rest =>
      obtain ⟨safe, middle, ensures, kept⟩ := keeps
      exact ⟨fun seen holds => safe seen (implies seen holds), middle,
        fun host holds => ensures host (implies _ holds), kept⟩

theorem weaken {weak : α → σ → Prop} (keeps : Maintains view invariant post pre routine)
    (implies : ∀ value seen, post value seen → weak value seen) :
    Maintains view invariant weak pre routine := by
  induction routine generalizing pre with
  | done value => exact fun seen holds => (keeps seen holds).imp_right (implies value seen)
  | step action rest ih =>
      obtain ⟨safe, middle, ensures, kept⟩ := keeps
      exact ⟨safe, middle, ensures, fun value => ih value (kept value)⟩

theorem pure {value : α} (safe : ∀ seen, pre seen → invariant seen)
    (holds : ∀ seen, pre seen → post value seen) :
    Maintains view invariant post pre (Pure.pure value : Routine α) :=
  fun seen known => ⟨safe seen known, holds seen known⟩

theorem call {action : Action α} (safe : ∀ seen, pre seen → invariant seen)
    (safePost : ∀ value seen, post value seen → invariant seen)
    (ensures : Ensures (pre <| view ·) action fun value host => post value (view host)) :
    Maintains view invariant post pre (Routine.call action) :=
  ⟨safe, post, ensures, fun value seen known => ⟨safePost value seen known, known⟩⟩

theorem bind {middle : α → σ → Prop} {last : β → σ → Prop}
    {next : α → Routine β} (first : Maintains view invariant middle pre routine)
    (rest : ∀ value, Maintains view invariant last (middle value) (next value)) :
    Maintains view invariant last pre (routine >>= next) := by
  change Maintains view invariant last pre (routine.andThen next)
  induction routine generalizing pre with
  | done value => exact (rest value).strengthen fun seen holds => (first seen holds).2
  | step action continued ih =>
      obtain ⟨safe, after, ensures, kept⟩ := first
      exact ⟨safe, after, ensures, fun value => ih value (kept value)⟩

/-- What is known to exist can be chosen, with a proof for each choice. -/
theorem chosen {ι : Sort*} {pre : ι → σ → Prop}
    (keeps : ∀ choice, Maintains view invariant post (pre choice) routine) :
    Maintains view invariant post (fun seen => ∃ choice, pre choice seen) routine := by
  induction routine generalizing ι with
  | done value => exact fun seen ⟨choice, holds⟩ => keeps choice seen holds
  | step action rest ih =>
      refine ⟨fun seen ⟨choice, holds⟩ => (keeps choice).1 seen holds,
        fun value seen => ∃ choice, (keeps choice).2.choose value seen, ?_, ?_⟩
      · rintro host ⟨choice, holds⟩
        exact ⟨choice, (keeps choice).2.choose_spec.1 host holds⟩
      · exact fun value => ih value fun choice => (keeps choice).2.choose_spec.2 value

theorem given {fact : Prop} (keeps : fact → Maintains view invariant post pre routine) :
    Maintains view invariant post (fun seen => fact ∧ pre seen) routine :=
  (chosen keeps).strengthen fun _ both => ⟨both.1, both.2⟩

end Maintains

theorem Keeps.sound {invariant pre : OpenFiles → Prop} {post : α → OpenFiles → Prop}
    {routine left : Routine α} (keeps : Keeps invariant post pre routine) {host now : Host}
    (holds : pre host.opened) (reaches : Reaches routine host left now) : invariant now.opened := by
  obtain ⟨middle, kept, known⟩ := keeps.reached Interrupts.opened holds reaches
  exact kept.invariant_of known

end Routine

end CompileDriver
