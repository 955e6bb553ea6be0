import CompileDriver.Host.Spawn
import CompileDriver.Proofs.Host.Notes

/-!
# What the process undertakes

To undertake something is to start a program or to copy a file.  The journal notes it
when it begins, whatever comes of it.

`Undertakes` describes a stretch of the history by what was undertaken in it, where
system calls are made besides and nothing is called on a session or logged.  `Ventures`
is the rule for actions: wherever it is run, what the action undertakes is related to the
value with which it comes back.  An action that has one thing to undertake does so, or
it stops before and comes back with a failure.
-/

namespace CompileDriver

/-- Whether an event is the start of a program or of a copy. -/
def Event.isUndertaking : Event → Bool
  | .launched _ | .copied _ _ => true
  | _ => false

namespace Host

/-- What was undertaken since an earlier state, in order. -/
def undertakingsSince (host earlier : Host) : List Event :=
  ((host.historySince earlier).map Moment.event).filter Event.isUndertaking

/-- Between two states exactly the given events were undertaken, by system calls. -/
structure Undertakes (before after : Host) (events : List Event) : Prop where
  notes : before.Notes (fun moment => moment.IsPlain ∨ moment.event.isUndertaking = true) after
  events : after.undertakingsSince before = events

namespace Undertakes

variable {first second third : Host} {early late : List Event}

theorem of_plain (notes : first.Notes Moment.IsPlain second) : Undertakes first second [] := by
  obtain ⟨moments, grown, isPlain⟩ := notes
  refine ⟨⟨moments, grown, fun moment member => .inl (isPlain moment member)⟩, ?_⟩
  rw [undertakingsSince, historySince_of_journal grown, List.filter_eq_nil_iff]
  intro event member
  obtain ⟨moment, present, rfl⟩ := List.mem_map.mp member
  have plain := isPlain moment (List.mem_reverse.mp present)
  unfold Moment.IsPlain at plain
  cases described : moment.event <;> simp_all [Event.isPlain, Event.isUndertaking]

theorem refl (host : Host) : Undertakes host host [] :=
  of_plain (.refl host)

theorem trans (start : Undertakes first second early) (rest : Undertakes second third late) :
    Undertakes first third (early ++ late) where
  notes := start.notes.trans rest.notes
  events := by
    rw [undertakingsSince, historySince_trans start.notes.grown rest.notes.grown, List.map_append,
      List.filter_append]
    exact congrArg₂ (· ++ ·) start.events rest.events

theorem note (host : Host) {event : Event} (undertaking : event.isUndertaking = true) :
    Undertakes host (host.note event) [event] where
  notes := .note host (.inr undertaking)
  events := by
    have grown : (host.note event).journal = [{ event, table := host.table }] ++ host.journal := rfl
    rw [undertakingsSince, historySince_of_journal grown]
    simp [undertaking]

/-- Nothing is called on a session. -/
theorem quiet (undertakes : Undertakes first second early) : Quiet first second := by
  obtain ⟨moments, grown, isKind⟩ := undertakes.notes
  refine ⟨moments, grown, ?_⟩
  intro moment member
  have kind := isKind moment member
  unfold Moment.IsPlain at kind
  cases described : moment.event <;>
    simp_all [Event.isPlain, Event.isUndertaking, Event.isRoutine]

end Undertakes

end Host

/-! ## Actions that undertake something -/

section

variable {α β : Type}

/-- A value that is known anyway comes out of a plain action, too. -/
theorem Plain.known {action : Action α} {yields : α → Prop} (plain : Plain action)
    (always : ∀ value, yields value) : (noting Moment.IsPlain).Governs action yields :=
  plain.weaken fun value _ => always value

/-- On one host, what the action undertakes is related to its value. -/
def VenturesAt (host : Host) (action : Action α) (relates : List Event → α → Prop) : Prop :=
  ∃ made, host.Undertakes (action host).2 made ∧ relates made (action host).1

/-- Whatever the host, what the action undertakes is related to its value. -/
abbrev Ventures (action : Action α) (relates : List Event → α → Prop) : Prop :=
  ∀ host : Host, VenturesAt host action relates

/-- What was undertaken is all that is due, or nothing; it is all if the value is
complete. -/
structure Completes (due : List Event) (complete : α → Prop) (made : List Event) (value : α) :
    Prop where
  atMost : made = [] ∨ made = due
  atLeast : complete value → made = due

theorem Completes.mem_due {due made : List Event} {complete : α → Prop} {value : α}
    (completes : Completes due complete made value) {event : Event} (member : event ∈ made) :
    event ∈ due := by
  rcases completes.atMost with rfl | rfl
  · cases member
  · exact member

/-- What follows a look at the host need only be right on that host. -/
theorem VenturesAt.look {host : Host} {relates : List Event → α → Prop} {next : Host → Action α}
    (ventures : VenturesAt host (next host) relates) : VenturesAt host (get >>= next) relates :=
  ventures

/-- System calls may come behind. -/
theorem VenturesAt.before {host : Host} {first : Action α} {next : α → Action β}
    {known : List Event → α → Prop} {relates : List Event → β → Prop}
    (ventures : VenturesAt host first known)
    (plain : ∀ made value, known made value →
      (noting Moment.IsPlain).Governs (next value) (relates made)) :
    VenturesAt host (first >>= next) relates := by
  obtain ⟨made, undertakes, related⟩ := ventures
  obtain ⟨notes, result⟩ := plain made (first host).1 related (first host).2 trivial
  refine ⟨made, ?_, result⟩
  simpa using undertakes.trans (.of_plain notes)

namespace Ventures

variable {relates : List Event → β → Prop} {due : List Event} {complete : β → Prop}

theorem value {value : β} (related : relates [] value) :
    Ventures (pure value : Action β) relates :=
  fun host => ⟨[], .refl host, related⟩

/-- To stop. -/
theorem stop {value : β} (incomplete : ¬ complete value) :
    Ventures (pure value : Action β) (Completes due complete) :=
  .value ⟨.inl rfl, fun isComplete => absurd isComplete incomplete⟩

/-- System calls may come before. -/
theorem after {first : Action α} {next : α → Action β} (plain : Plain first)
    (ventures : ∀ value, Ventures (next value) relates) : Ventures (first >>= next) relates := by
  intro host
  obtain ⟨made, undertakes, related⟩ := ventures (first host).1 (first host).2
  have nothing : host.Undertakes (first host).2 [] := .of_plain (plain host trivial).1
  exact ⟨made, nothing.trans undertakes, related⟩

end Ventures

end

/-! ## Programs -/

namespace Spawn

variable (launcher : Launcher) (invocation : Invocation)

theorem ventures_launch :
    Ventures (launch launcher invocation) fun made _ => made = [.launched invocation] :=
  fun host => ⟨[.launched invocation], .note host rfl, rfl⟩

theorem plain_closeAll (numbers : List Nat) : Plain (closeAll numbers) :=
  .each fun number _ => Plain.close number

theorem plain_writeInherited (stream : Stream) (bytes : Bytes) :
    Plain (writeInherited stream bytes) := by
  apply Discipline.Governs.look
  intro host _
  split
  · exact (Plain.write stream.number bytes).discarded host trivial
  · exact .value trivial

theorem ventures_collectingOn (input : Nat) (stdout stderr : Nat × Nat) :
    Ventures (collectingOn launcher invocation input stdout stderr)
      (Completes [.launched invocation] fun outcome => outcome.isOk = true) := by
  intro host
  apply (ventures_launch launcher invocation host).before
  rintro _ started rfl
  apply (plain_closeAll _).bind
  intro _ _
  cases started with
  | error error => exact (plain_closeAll _).bind fun _ _ => .value ⟨.inr rfl, fun _ => rfl⟩
  | ok execution =>
      have changed : Plain (modify fun host => { host with files := execution.files }) :=
        .changed fun _ => .of_journal rfl
      exact changed.bind fun _ _ =>
        (plain_closeAll _).bind fun _ _ => .value ⟨.inr rfl, fun _ => rfl⟩

/-- A program whose output is collected is started, or something fails before. -/
theorem ventures_collecting :
    Ventures (collecting launcher invocation)
      (Completes [.launched invocation] fun outcome => outcome.isOk = true) := by
  unfold collecting
  split
  · exact .stop nofun
  · apply Ventures.after (Plain.openAs .discard)
    intro opened
    cases opened with
    | error error => exact .stop nofun
    | ok input =>
        apply Ventures.after Plain.pipe
        intro made
        cases made with
        | error error => exact .after (plain_closeAll _) fun _ => .stop nofun
        | ok stdout =>
            apply Ventures.after Plain.pipe
            intro made
            cases made with
            | error error => exact .after (plain_closeAll _) fun _ => .stop nofun
            | ok stderr => exact ventures_collectingOn launcher invocation input stdout stderr

/-- So is a program that inherits the streams; it is told which of them it does not
receive. -/
theorem ventures_inheriting (host : Host) :
    VenturesAt host (inheriting launcher invocation)
      (Completes [.launched { invocation with closed := closedStreams host }]
        fun outcome => outcome.isOk = true) := by
  unfold inheriting
  split
  · exact Ventures.stop nofun host
  · apply VenturesAt.look
    apply (ventures_launch launcher _ host).before
    rintro _ started rfl
    cases started with
    | error error => exact .value ⟨.inr rfl, fun _ => rfl⟩
    | ok execution =>
        have changed : Plain (modify fun host => { host with files := execution.files }) :=
          .changed fun _ => .of_journal rfl
        have written : Plain (execution.output.forM fun write =>
            writeInherited write.stream write.bytes) :=
          .each fun write _ => plain_writeInherited write.stream write.bytes
        exact changed.bind fun _ _ => written.bind fun _ _ => .value ⟨.inr rfl, fun _ => rfl⟩

end Spawn

end CompileDriver
