import CompileDriver.Driver
import CompileDriver.Proofs.Guard.Spares

/-!
# The steps of the driver itself

Apart from the calls on its session, a request only takes steps of the process
that spare the foreign numbers.

So whatever discipline allows these steps governs all that a request does between the
calls.  The beginning of a crash report is no step of the process, because the process
does not go on.
-/

namespace CompileDriver

section

variable {foreign : Nat → Prop} (own : ∀ stream : Stream, ¬ foreign stream.number)

include own

theorem Speaks.reportTimings (timings : Timings) :
    Speaks foreign (Driver.reportTimings timings) fun _ => True := by
  refine (Speaks.isEnabled .debug).bind fun enabled _ => ?_
  split
  · exact .each fun _ _ => Speaks.debug own _
  · exact .value trivial

theorem Spares.startCapture {σ : Type} (driver : Driver σ) :
    Spares foreign driver.startCapture fun outcome => outcome.2.Own foreign := by
  have idle : ({ nonblocking := driver.nonblocking } : Capture).Own foreign := by
    rintro taps ⟨⟩
  unfold Driver.startCapture
  dsimp only
  split
  · refine (Spares.start own idle).bind fun outcome ownCapture => ?_
    split
    · exact .value ownCapture
    · exact (Speaks.debug own _).spares.bind fun _ _ => .value ownCapture
  · exact .value idle

end

theorem Speaks.writeReport (panic : Panic) :
    Speaks (fun _ => False) panic.writeReport fun _ => True :=
  .each fun _ _ => Speaks.writeStream (fun _ => not_false) .stderr _

/-- A discipline governs the report of a crash if it governs the writing of it and allows it to
begin. -/
theorem Discipline.Governs.report {discipline : Discipline}
    (anywhere : ∀ host, discipline.needs host)
    (begins : ∀ host : Host, discipline.allows host { host with crashReported := true })
    {panic : Panic} (written : discipline.Governs panic.writeReport fun _ => True) :
    discipline.Governs panic.report fun _ => True := by
  apply Discipline.Governs.look
  intro host _
  split
  · exact .value trivial
  · have reported := written { host with crashReported := true } (anywhere _)
    exact ⟨discipline.trans (begins host) reported.1, trivial⟩

/-! ## Between the calls -/

/-- A discipline that lets a request serve its session: anywhere, the steps of the process
are allowed, and so is the beginning of a crash report. -/
structure Discipline.LetsServe (discipline : Discipline) : Prop where
  anywhere : ∀ host, discipline.needs host
  steps : ∀ {before after}, Host.Steps (fun _ => False) before after →
    discipline.allows before after
  crash : ∀ host : Host, discipline.allows host { host with crashReported := true }

namespace Discipline.LetsServe

variable {discipline : Discipline} {α : Type} {yields : α → Prop}

theorem spares (letsServe : discipline.LetsServe) {action : Action α}
    (spares : Spares (fun _ => False) action yields) : discipline.Governs action yields :=
  spares.relax (fun _ _ _ isForeign => isForeign.elim) fun _ _ => letsServe.steps

variable (letsServe : discipline.LetsServe)

include letsServe

theorem engage (stream : Stream) (wanted : Bool) :
    discipline.Governs (Suppressor.engage stream wanted) fun _ => True :=
  (letsServe.spares (Spares.engage (fun _ => not_false) stream wanted)).weaken fun _ _ => trivial

theorem restoreSuppressor (suppressor : Suppressor) :
    discipline.Governs (discard suppressor.restore : Action Unit) fun _ => True :=
  (letsServe.spares
    (Spares.restoreSuppressor (fun _ => not_false) suppressor.own_none)).discarded

theorem stop (capture : Capture) :
    discipline.Governs (discard capture.stop : Action Unit) fun _ => True :=
  (letsServe.spares (Spares.stop (fun _ => not_false) capture.own_none)).discarded

theorem intoOutput (capture : Capture) :
    discipline.Governs capture.intoOutput fun _ => True :=
  letsServe.spares (Spares.intoOutput (fun _ => not_false) capture.own_none)

theorem startCapture {σ : Type} (driver : Driver σ) :
    discipline.Governs driver.startCapture fun _ => True :=
  (letsServe.spares (Spares.startCapture (fun _ => not_false) driver)).weaken fun _ _ => trivial

theorem reportTimings (timings : Timings) :
    discipline.Governs (Driver.reportTimings timings) fun _ => True :=
  letsServe.spares (Speaks.reportTimings (fun _ => not_false) timings).spares

theorem report (panic : Panic) : discipline.Governs panic.report fun _ => True :=
  .report letsServe.anywhere letsServe.crash (letsServe.spares (Speaks.writeReport panic).spares)

theorem raise (panic : Panic) : discipline.Governs panic.raise fun _ => True := by
  apply Discipline.Governs.look
  intro host needed
  split
  · exact .value trivial
  · exact ((letsServe.report panic).bind fun _ _ => .value trivial) host needed

theorem unwind (panic : Panic) {cleanup : Action Unit}
    (cleans : discipline.Governs cleanup fun _ => True) :
    discipline.Governs (Driver.unwind panic cleanup) fun _ => True := by
  apply (letsServe.raise panic).bind
  intro ended _
  cases ended with
  | none => exact cleans.bind fun _ _ => .value trivial
  | some code => exact .value trivial

end Discipline.LetsServe

end CompileDriver
