import CompileDriver.Host.Spawn
import CompileDriver.Proofs.Host.Journal
import CompileDriver.Proofs.Host.Opened

/-!
# Starting programs

A program that inherits the standard streams writes to them like the process
itself, and apart from that changes the file tree only.  Nothing of this is
noted as a call on a session.

To collect the output of a program takes descriptors for its streams instead, which
are closed again.
-/

namespace CompileDriver

theorem Speaks.launch {foreign : Nat → Prop} (launcher : Launcher) (invocation : Invocation) :
    Speaks foreign (Spawn.launch launcher invocation) fun _ => True :=
  .bind (.changed fun host => .single (.note host rfl)) fun _ _ => .look fun _ _ => .value trivial

theorem Speaks.writeInherited {foreign : Nat → Prop}
    (own : ∀ stream : Stream, ¬ foreign stream.number) (stream : Stream) (bytes : Bytes) :
    Speaks foreign (Spawn.writeInherited stream bytes) fun _ => True := by
  refine .look fun host holds => ?_
  split
  · exact (Speaks.write (own stream) bytes).discarded host holds
  · exact .value trivial

/-- A discipline that lets programs run: anywhere, whatever writing does is
allowed, and so are changes of the file tree and of the descriptor limit. -/
structure Discipline.LetsRun (discipline : Discipline) : Prop where
  anywhere : ∀ host, discipline.needs host
  utterances : ∀ {before after}, Host.Utterances (fun _ => False) before after →
    discipline.allows before after
  files : ∀ (host : Host) files, discipline.allows host { host with files }
  numberLimit : ∀ (host : Host) numberLimit, discipline.allows host { host with numberLimit }

namespace Discipline.LetsRun

variable {discipline : Discipline} {α : Type}

theorem speaks (letsRun : discipline.LetsRun) {action : Action α} {yields : α → Prop}
    (speaks : Speaks (fun _ => False) action yields) : discipline.Governs action yields :=
  speaks.relax (fun _ _ => trivial) fun _ _ => letsRun.utterances

theorem inheriting (letsRun : discipline.LetsRun) (launcher : Launcher)
    (invocation : Invocation) :
    discipline.Governs (Spawn.inheriting launcher invocation) fun _ => True := by
  have written (execution : Execution) : discipline.Governs
      (do modify fun host => { host with files := execution.files }
          execution.output.forM fun write => Spawn.writeInherited write.stream write.bytes
          return (Except.ok execution.status : Except OsError ExitStatus)) fun _ => True := by
    refine (Governs.changed fun host => letsRun.files host _).bind fun _ _ => ?_
    refine (Governs.each fun write _ => ?_).bind fun _ _ => .value trivial
    exact letsRun.speaks (Speaks.writeInherited (fun _ => not_false) _ _)
  unfold Spawn.inheriting
  split
  · exact .value trivial
  · refine .look fun host _ => ?_
    refine (letsRun.speaks (Speaks.launch launcher _)).bind (fun started _ => ?_) host
      (letsRun.anywhere host)
    cases started with
    | error error => exact .value trivial
    | ok execution => exact written execution

end Discipline.LetsRun

/-- A discipline that lets the output of programs be collected: descriptors are acquired
and closed, a program is started, and it changes the file tree. -/
structure Discipline.LetsCollect (discipline : Discipline) : Prop where
  openAs : ∀ file, discipline.Governs (SystemCall.openAs file) fun _ => True
  pipe : discipline.Governs SystemCall.pipe fun _ => True
  close : ∀ number, discipline.Governs (SystemCall.close number) fun _ => True
  launched : ∀ (host : Host) invocation, discipline.allows host (host.note (.launched invocation))
  files : ∀ (host : Host) files, discipline.allows host { host with files }

namespace Discipline.LetsCollect

variable {discipline : Discipline} (letsCollect : discipline.LetsCollect) (launcher : Launcher)
  (invocation : Invocation)

include letsCollect

theorem launch : discipline.Governs (Spawn.launch launcher invocation) fun _ => True := by
  have noted : discipline.Governs (modify (·.note (.launched invocation)) : Action PUnit)
      fun _ => True := .changed fun host => letsCollect.launched host invocation
  exact noted.bind fun _ _ => .look fun _ _ => .value trivial

theorem closeAll (numbers : List Nat) :
    discipline.Governs (Spawn.closeAll numbers) fun _ => True :=
  .each fun number _ => letsCollect.close number

theorem collectingOn (input : Nat) (stdout stderr : Nat × Nat) :
    discipline.Governs (Spawn.collectingOn launcher invocation input stdout stderr)
      fun _ => True := by
  refine (letsCollect.launch launcher invocation).bind fun started _ => ?_
  refine (letsCollect.closeAll _).bind fun _ _ => ?_
  cases started with
  | error error => exact (letsCollect.closeAll _).bind fun _ _ => .value trivial
  | ok execution =>
      have left : discipline.Governs
          (modify fun host => { host with files := execution.files } : Action PUnit)
          fun _ => True := .changed fun host => letsCollect.files host _
      exact left.bind fun _ _ => (letsCollect.closeAll _).bind fun _ _ => .value trivial

theorem collecting :
    discipline.Governs (Spawn.collecting launcher invocation) fun _ => True := by
  unfold Spawn.collecting
  split
  · exact .value trivial
  · refine (letsCollect.openAs .discard).bind fun opened _ => ?_
    cases opened with
    | error error => exact .value trivial
    | ok input =>
        refine letsCollect.pipe.bind fun first _ => ?_
        cases first with
        | error error => exact (letsCollect.closeAll _).bind fun _ _ => .value trivial
        | ok stdout =>
            refine letsCollect.pipe.bind fun second _ => ?_
            cases second with
            | error error => exact (letsCollect.closeAll _).bind fun _ _ => .value trivial
            | ok stderr => exact letsCollect.collectingOn launcher invocation input stdout stderr

end Discipline.LetsCollect

theorem silence_letsRun : silence.LetsRun where
  anywhere _ := trivial
  utterances utterances := Host.Steps.quiet utterances.steps
  files _ _ := .of_journal rfl
  numberLimit _ _ := .of_journal rfl

theorem stillness_letsRun : stillness.LetsRun where
  anywhere _ := trivial
  utterances utterances := utterances.still
  files host _ := .refl host
  numberLimit host _ := .refl host

end CompileDriver
