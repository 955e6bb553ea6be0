import CompileDriver.Proofs.Host.Notes
import CompileDriver.Proofs.Host.Passage
import CompileDriver.Proofs.Host.Spawn

/-!
# What arrives

The arrivals since an earlier state are what the process has written since then, write by
write, each with the file that has taken it.  A write arrives once or not at all.  To collect
the output of a program lets nothing arrive.
-/

namespace CompileDriver

/-- What arrives in a moment: the bytes of a delivery, and the file that takes them. -/
def Moment.arrival? (moment : Moment) : Option (OpenFile × Bytes) :=
  match moment.event with
  | .delivered number bytes => (moment.table.file? number).map (·, bytes)
  | _ => none

namespace Host

/-- What has arrived anywhere since an earlier state, in order. -/
def arrivalsSince (host earlier : Host) : List (OpenFile × Bytes) :=
  (host.historySince earlier).filterMap Moment.arrival?

variable {first second third before after : Host}

theorem arrivalsSince_trans (start : first.journal <:+ second.journal)
    (rest : second.journal <:+ third.journal) :
    third.arrivalsSince first = second.arrivalsSince first ++ third.arrivalsSince second := by
  simp only [arrivalsSince, historySince_trans start rest, List.filterMap_append]

/-- Where nothing is delivered nothing arrives. -/
theorem Notes.arrivalsSince (notes : before.Notes (fun moment => moment.arrival? = none) after) :
    after.arrivalsSince before = [] := by
  obtain ⟨-, silent⟩ := Notes.iff_historySince.mp notes
  exact List.filterMap_eq_nil_iff.mpr silent

theorem arrivalsSince_of_journal (same : after.journal = before.journal) :
    after.arrivalsSince before = [] :=
  Notes.arrivalsSince (.of_journal same)

/-! ## Writing -/

/-- What is written arrives if it is delivered. -/
theorem arrivalsSince_write_of_ok (host : Host) {number : Nat} {file : OpenFile} {bytes : Bytes}
    (found : host.opened number = some file) (delivered : (host.deliver file bytes).1 = .ok ()) :
    (SystemCall.write number bytes host).2.arrivalsSince host = [(file, bytes)] := by
  have written := SystemCall.write_open found bytes
  rw [delivered] at written
  have noted : ((host.deliver file bytes).2.note (.delivered number bytes)).journal =
      [{ event := .delivered number bytes, table := host.table }] ++ host.journal := by
    rw [← table_deliver host file bytes, ← journal_deliver host file bytes]
    rfl
  have refers : host.table.file? number = some file := found
  rw [written, arrivalsSince, historySince_of_journal noted]
  simp [Moment.arrival?, refers]

/-- What is written arrives at the file of the number, or nowhere. -/
theorem arrivalsSince_write (host : Host) (number : Nat) (bytes : Bytes) :
    (SystemCall.write number bytes host).2.arrivalsSince host = [] ∨
      ∃ file, host.opened number = some file ∧
        (SystemCall.write number bytes host).2.arrivalsSince host = [(file, bytes)] := by
  cases found : host.opened number with
  | none =>
      rw [SystemCall.write_closed found]
      exact .inl (arrivalsSince_of_journal (readersRan_takeTurn host).journal)
  | some file =>
      cases delivered : (host.deliver file bytes).1 with
      | error error =>
          rw [SystemCall.write_open found, delivered]
          exact .inl (arrivalsSince_of_journal (journal_deliver host file bytes))
      | ok done => exact .inr ⟨file, rfl, arrivalsSince_write_of_ok host found delivered⟩

/-- A file that takes what is written gets it. -/
theorem arrivalsSince_write_of_takes {host : Host} {number : Nat} {file : OpenFile}
    (found : host.opened number = some file) (takes : host.opened.Takes number) (bytes : Bytes) :
    (SystemCall.write number bytes host).2.arrivalsSince host = [(file, bytes)] :=
  arrivalsSince_write_of_ok host found (deliver_of_takes found takes bytes)

end Host

/-! ## Collecting -/

/-- To note system calls and starts of programs lets the output of programs be collected. -/
theorem noting_letsCollect {kind : Moment → Prop}
    (calls : ∀ table, kind { event := .systemCall, table })
    (launches : ∀ invocation table, kind { event := .launched invocation, table }) :
    (noting kind).LetsCollect where
  openAs := Noting.openAs calls
  pipe := Noting.pipe calls
  close := Noting.close calls
  launched host _ := .note host (launches _ _)
  files _ _ := .of_journal rfl

/-- While the output of a program is collected, nothing arrives anywhere. -/
theorem Spawn.silent_collecting (launcher : Launcher) (invocation : Invocation) :
    (noting fun moment => moment.arrival? = none).Governs (collecting launcher invocation)
      fun _ => True :=
  (noting_letsCollect (fun _ => rfl) fun _ _ => rfl).collecting launcher invocation

end CompileDriver
