import CompileDriver.Proofs.Host.Journal
import CompileDriver.Proofs.Host.StandardStream

/-!
# What is noted in a stretch

`Notes` says of a stretch of the history that only moments of some kind were noted
in it.  A stretch in which the process only writes notes every moment with the
table that it begins with.

An action is plain when it notes nothing but system calls and deliveries: it makes
no call on a session, logs nothing, and starts and copies nothing.  All system calls
are plain.
-/

namespace CompileDriver

/-- Whether an event is a system call or a delivery. -/
def Event.isPlain : Event → Bool
  | .systemCall | .delivered _ _ => true
  | _ => false

/-- Whether a moment is a system call or a delivery. -/
abbrev Moment.IsPlain (moment : Moment) : Prop :=
  moment.event.isPlain = true

namespace Host

/-- Between two states only moments of a kind were noted. -/
def Notes (kind : Moment → Prop) (before after : Host) : Prop :=
  ∃ moments, after.journal = moments ++ before.journal ∧ ∀ moment ∈ moments, kind moment

namespace Notes

variable {kind : Moment → Prop} {before after first second third : Host}

theorem of_journal (same : after.journal = before.journal) : Notes kind before after :=
  ⟨[], same, by simp⟩

theorem refl (host : Host) : Notes kind host host :=
  of_journal rfl

theorem trans (start : Notes kind first second) (rest : Notes kind second third) :
    Notes kind first third := by
  obtain ⟨early, earlyGrown, isEarlyKind⟩ := start
  obtain ⟨late, lateGrown, isLateKind⟩ := rest
  refine ⟨late ++ early, by rw [lateGrown, earlyGrown, List.append_assoc], ?_⟩
  intro moment member
  rcases List.mem_append.mp member with isLate | isEarly
  · exact isLateKind moment isLate
  · exact isEarlyKind moment isEarly

theorem weaken {strong weak : Moment → Prop} (notes : Notes strong before after)
    (implies : ∀ moment, strong moment → weak moment) : Notes weak before after := by
  obtain ⟨moments, grown, isKind⟩ := notes
  exact ⟨moments, grown, fun moment member => implies moment (isKind moment member)⟩

/-- To note one moment. -/
theorem note (host : Host) {event : Event} (known : kind { event, table := host.table }) :
    Notes kind host (host.note event) :=
  ⟨[{ event, table := host.table }], rfl, by simpa using known⟩

theorem endCall (host : Host) (known : kind { event := .systemCall, table := host.table }) :
    Notes kind host host.endCall :=
  (note host known).trans (of_journal (readersRan_takeTurn _).journal)

theorem grown (notes : Notes kind before after) : before.journal <:+ after.journal := by
  obtain ⟨moments, grown, -⟩ := notes
  exact ⟨moments, grown.symm⟩

/-- The moments of the stretch are those of the history. -/
theorem iff_historySince :
    Notes kind before after ↔ before.journal <:+ after.journal ∧
      ∀ moment ∈ after.historySince before, kind moment := by
  constructor
  · rintro ⟨moments, grown, isKind⟩
    refine ⟨⟨moments, grown.symm⟩, ?_⟩
    intro moment member
    rw [historySince_of_journal grown, List.mem_reverse] at member
    exact isKind moment member
  · rintro ⟨⟨moments, grown⟩, isKind⟩
    refine ⟨moments, grown.symm, ?_⟩
    intro moment member
    apply isKind
    rw [historySince_of_journal grown.symm, List.mem_reverse]
    exact member

end Notes

/-- Writing notes everything with the table that it finds. -/
theorem Utterances.notes {foreign : Nat → Prop} {before after : Host}
    (utterances : Utterances foreign before after) :
    Notes (fun moment => moment.table = before.table) before after := by
  induction utterances with
  | refl => exact .refl _
  | @tail middle last start utterance ih =>
      refine ih.trans ?_
      cases utterance with
      | turn => exact .of_journal (readersRan_takeTurn middle).journal
      | note => exact .note middle (Utterances.table start)
      | deliver own found bytes => exact .of_journal (journal_deliver middle _ bytes)
      | lineBuffer | buffers => exact .of_journal rfl

end Host

variable {α β : Type}

/-! ## Actions that note moments of a kind -/

/-- To note moments of a kind only. -/
def noting (kind : Moment → Prop) : Discipline where
  needs _ := True
  allows := Host.Notes kind
  refl := .refl
  trans := .trans
  keeps _ _ := trivial

namespace Noting

variable {kind : Moment → Prop} (calls : ∀ table, kind { event := .systemCall, table })

include calls

/-- A system call that notes nothing itself is noted as a system call. -/
theorem perform {call : Host → Except OsError (α × Host)}
    (kept : ∀ host value next, call host = .ok (value, next) → next.journal = host.journal) :
    (noting kind).Governs (SystemCall.perform call) fun _ => True := by
  intro host _
  rcases SystemCall.perform_cases call host with ⟨error, -, failed⟩ | ⟨value, next, done, granted⟩
  · rw [Discipline.GovernsAt, failed]
    exact ⟨.endCall host (calls _), trivial⟩
  · rw [Discipline.GovernsAt, granted]
    have made : Host.Notes kind host next := .of_journal (kept host value next done)
    exact ⟨made.trans (.endCall next (calls _)), trivial⟩

theorem acquire {call : Host → Except OsError (α × Host)}
    (kept : ∀ host value next, call host = .ok (value, next) → next.journal = host.journal) :
    (noting kind).Governs (SystemCall.acquire call) fun _ => True := by
  intro host _
  obtain ⟨refusals, ⟨error, failed⟩ | ⟨value, next, done, granted⟩⟩ :=
    SystemCall.acquire_cases call host
  · rw [Discipline.GovernsAt, failed]
    exact ⟨.endCall { host with refusals } (calls _), trivial⟩
  · rw [Discipline.GovernsAt, granted]
    have made : Host.Notes kind host next :=
      .of_journal (kept { host with refusals } value next done)
    exact ⟨made.trans (.endCall next (calls _)), trivial⟩

theorem pipe : (noting kind).Governs SystemCall.pipe fun _ => True := by
  apply acquire calls
  intro host value next done
  obtain ⟨-, rfl⟩ := Host.makePipe_ok done
  rfl

theorem close (number : Nat) : (noting kind).Governs (SystemCall.close number) fun _ => True := by
  intro host _
  exact ⟨.endCall { host with table := host.table.close number } (calls _), trivial⟩

theorem openAs (file : Nat → OpenFile) :
    (noting kind).Governs (SystemCall.openAs file) fun _ => True := by
  apply acquire calls
  intro host value next done
  obtain ⟨-, rfl⟩ := Host.openAs_ok done
  rfl

end Noting

/-! ## Plain actions -/

/-- Whatever the host, the action notes nothing but system calls and deliveries. -/
abbrev Plain (action : Action α) : Prop :=
  (noting Moment.IsPlain).Governs action fun _ => True

/-- A plain action notes moments of every kind that plain moments are of. -/
theorem Plain.notes {kind : Moment → Prop} {action : Action α} (plain : Plain action)
    (implies : ∀ moment : Moment, moment.IsPlain → kind moment) (host : Host) :
    host.Notes kind (action host).2 :=
  (plain host trivial).1.weaken implies

namespace Plain

/-! ### System calls -/

theorem pipe : Plain SystemCall.pipe :=
  Noting.pipe fun _ => rfl

theorem close (number : Nat) : Plain (SystemCall.close number) :=
  Noting.close (fun _ => rfl) number

theorem openAs (file : Nat → OpenFile) : Plain (SystemCall.openAs file) :=
  Noting.openAs (fun _ => rfl) file

theorem duplicate (number : Nat) : Plain (SystemCall.duplicate number) := by
  apply Noting.acquire fun _ => rfl
  intro host value next done
  obtain ⟨-, -, -, rfl⟩ := Host.duplicate_ok done
  rfl

theorem redirect (source target : Nat) : Plain (SystemCall.redirect source target) := by
  apply Noting.acquire fun _ => rfl
  intro host value next done
  obtain ⟨-, rfl⟩ := Host.redirect_ok done
  rfl

theorem giveBack (saved target : Nat) : Plain (SystemCall.giveBack saved target) := by
  apply Noting.perform fun _ => rfl
  intro host value next done
  obtain ⟨-, rfl⟩ := Host.redirect_ok done
  rfl

theorem setPolling (number : Nat) : Plain (SystemCall.setPolling number) := by
  apply Noting.acquire fun _ => rfl
  intro host value next done
  rw [Host.setPolling_ok done]

theorem startReader (source : Nat) : Plain (SystemCall.startReader source) := by
  apply Noting.acquire fun _ => rfl
  intro host value next done
  obtain ⟨-, rfl⟩ := Host.startReader_ok done
  rfl

theorem joinReader (thread : Nat) : Plain (SystemCall.joinReader thread) := by
  intro host _
  exact ⟨.of_journal (Host.readersRan_await host _).journal, trivial⟩

theorem write (number : Nat) (bytes : Bytes) : Plain (SystemCall.write number bytes) := by
  intro host _
  refine ⟨?_, trivial⟩
  cases found : host.table.file? number with
  | none =>
      rw [SystemCall.write_closed found]
      exact .of_journal (Host.readersRan_takeTurn host).journal
  | some file =>
      have delivered : Host.Notes Moment.IsPlain host (host.deliver file bytes).2 :=
        .of_journal (Host.journal_deliver host file bytes)
      rw [SystemCall.write_open found]
      split
      · exact delivered.trans (.note _ rfl)
      · exact delivered

/-! ### Writing to the streams -/

theorem letsWrite (stream : Stream) : (noting Moment.IsPlain).LetsWrite stream where
  write := write stream.number
  lineBuffer _ _ := .of_journal rfl

theorem writeStream (stream : Stream) (bytes : Bytes) : Plain (stream.write bytes) :=
  (letsWrite stream).writeStream bytes

theorem flush (stream : Stream) : Plain stream.flush :=
  (letsWrite stream).flush

theorem print (output : Output) (text : String) : Plain (output.print text) := by
  cases output with
  | standard stream => exact writeStream stream (Bytes.ofText text)
  | buffer number => exact .changed fun _ => .of_journal rfl

end Plain

end CompileDriver
