import CompileDriver.Guard.Capture
import CompileDriver.Guard.Suppressor
import CompileDriver.Proofs.Guard.Spares
import CompileDriver.Proofs.Host.Notes

/-!
# Guards log at their end

The guards of the streams log in three places: a suppressor that cannot be set up, a
capture that is stopped, and a capture whose start fails and that is stopped for this
reason.  In all of them the record comes last: `LogsLast` says that whatever an action
logs it logs with the table that it leaves behind, and under which outcomes it logs
anything at all.
-/

namespace CompileDriver

variable {α β : Type}

/-! ## Plain parts of the guards -/

namespace Plain

/-- What is plain logs nothing. -/
theorem record {moment : Moment} (plain : moment.IsPlain) : moment.record? = none := by
  unfold Moment.record?
  split
  · simp_all [Moment.IsPlain, Event.isPlain]
  · rfl

theorem letsDivert : (noting Moment.IsPlain).LetsDivert fun _ => False where
  toLetsAcquire := .of_calls pipe duplicate (openAs .discard) redirect giveBack close setPolling
    startReader fun _ _ => .of_journal rfl
  own _ := not_false
  flush := flush

theorem restore (scope : Scope) : Plain scope.restore :=
  letsDivert.restore scope.own_none

theorem discardStream (stream : Stream) : Plain (Suppressor.discardStream stream) :=
  (letsDivert.discardStream stream).weaken fun _ _ => trivial

theorem restoreSuppressor (suppressor : Suppressor) : Plain suppressor.restore :=
  letsDivert.restoreSuppressor suppressor.own_none

theorem closePipe (ends : Nat × Nat) : Plain (Capture.closePipe ends) :=
  letsDivert.closePipe ⟨not_false, not_false⟩

theorem askToStop (tap : Tap) : Plain (Capture.askToStop tap) :=
  letsDivert.askToStop tap

theorem joinTap (tap : Tap) : Plain (Capture.joinTap tap) :=
  Discipline.Governs.joinTap joinReader tap

theorem startTap (tap : Tap) (nonblocking : Bool) : Plain (Capture.startTap tap nonblocking) :=
  letsDivert.startTap tap nonblocking

theorem redirectBoth (writers : PerStream Nat) : Plain (Capture.redirectBoth writers) :=
  (letsDivert.redirectBoth fun _ => not_false).weaken fun _ _ => trivial

end Plain

/-! ## Logging at the end -/

/-- The action logs only when its outcome is a complaint, and with the table that it
leaves behind. -/
def LogsLast (complains : α → Prop) (action : Action α) : Prop :=
  ∀ host : Host, host.Notes
    (fun moment => moment.record? ≠ none →
      complains (action host).1 ∧ moment.table = (action host).2.table) (action host).2

namespace LogsLast

variable {complains : α → Prop} {protests : β → Prop}

theorem of_plain {action : Action α} (plain : Plain action) : LogsLast complains action := by
  intro host
  apply plain.notes
  intro moment isPlain logged
  exact absurd (Plain.record isPlain) logged

/-- An action that only writes changes no table, and may log in between. -/
theorem of_speaks {action : Action α} {yields : α → Prop}
    (speaks : Speaks (fun _ => False) action yields)
    (known : ∀ value, yields value → complains value) :
    LogsLast complains action := by
  intro host
  obtain ⟨utterances, yielded⟩ := speaks host trivial
  apply utterances.notes.weaken
  intro moment same _
  exact ⟨known _ yielded, same.trans utterances.table.symm⟩

/-- What comes before and is plain does not matter. -/
theorem after {first : Action α} {next : α → Action β} (plain : Plain first)
    (rest : ∀ value, LogsLast protests (next value)) : LogsLast protests (first >>= next) := by
  intro host
  refine Host.Notes.trans (plain.notes (fun moment isPlain logged => ?_) host) (rest _ _)
  exact absurd (Plain.record isPlain) logged

/-- After a complaint nothing but writing may follow. -/
theorem bind {first : Action α} {next : α → Action β} (logs : LogsLast complains first)
    (speaks : ∀ value, complains value → Speaks (fun _ => False) (next value) protests)
    (rest : ∀ value, ¬ complains value → LogsLast protests (next value)) :
    LogsLast protests (first >>= next) := by
  intro host
  by_cases complained : complains (first host).1
  · obtain ⟨utterances, yielded⟩ := speaks _ complained (first host).2 trivial
    have last : (next (first host).1 (first host).2).2.table = (first host).2.table :=
      utterances.table
    refine Host.Notes.trans ((logs host).weaken fun moment atEnd logged => ?_)
      (utterances.notes.weaken fun moment same logged => ?_)
    · exact ⟨yielded, (atEnd logged).2.trans last.symm⟩
    · exact ⟨yielded, same.trans last.symm⟩
  · refine Host.Notes.trans ((logs host).weaken fun moment atEnd logged => ?_)
      (rest _ complained _)
    exact absurd (atEnd logged).1 complained

/-! ## The guards -/

/-- A suppressor logs when it stays inert. -/
theorem engage (stream : Stream) (wanted : Bool) :
    LogsLast (· = Suppressor.inert stream) (Suppressor.engage stream wanted) := by
  unfold Suppressor.engage
  split
  · exact of_plain (.value trivial)
  · refine after (Plain.discardStream stream) fun outcome => ?_
    cases outcome with
    | ok scope => exact of_plain (.value trivial)
    | error error =>
        have said : Speaks (fun _ => False)
            (do Log.debug s!"leaving `{stream.name}` visible, couldn't suppress it: {error.message}"
                return Suppressor.inert stream) (· = Suppressor.inert stream) :=
          (Speaks.debug (fun _ => not_false) _).bind fun _ _ => .value rfl
        exact of_speaks said fun _ inert => inert

/-- A capture that is stopped logs how its readers ended. -/
theorem stop (capture : Capture) : LogsLast (fun _ => True) capture.stop := by
  unfold Capture.stop
  split
  · exact of_plain (.value trivial)
  · rename_i taps active
    refine after (Plain.askToStop taps.stdout) fun _ => ?_
    refine after (Plain.askToStop taps.stderr) fun _ => ?_
    refine after (Plain.restore taps.stdout.scope).discarded fun _ => ?_
    refine after (Plain.restore taps.stderr.scope).discarded fun _ => ?_
    refine after (Plain.close taps.stdout.writer) fun _ => ?_
    refine after (Plain.close taps.stderr.writer) fun _ => ?_
    refine after (Plain.joinTap taps.stdout) fun stdout => ?_
    refine after (Plain.joinTap taps.stderr) fun stderr => ?_
    refine after (Plain.close taps.stdout.source) fun _ => ?_
    refine after (Plain.close taps.stderr.source) fun _ => ?_
    -- only the reports of the two readers are left
    have reports (last : Capture) : Speaks (fun _ => False)
        (do Capture.reportEarlyEnd .stdout stdout.2
            Capture.reportEarlyEnd .stderr stderr.2
            return last) fun _ => True :=
      (Speaks.reportEarlyEnd (fun _ => not_false) .stdout _).bind fun _ _ =>
        (Speaks.reportEarlyEnd (fun _ => not_false) .stderr _).bind fun _ _ => .value trivial
    exact of_speaks (reports _) fun _ known => known

/-- Starting a capture logs when it fails. -/
def Failed : Except CaptureError Unit × Capture → Prop
  | (.error _, _) => True
  | (.ok (), _) => False

theorem startReaders (capture : Capture) (taps : PerStream Tap) :
    LogsLast Failed (capture.startReaders taps) := by
  have stopped (taps : PerStream Tap) (error : CaptureError) : LogsLast Failed
      (do let stopped ← ({ capture with taps := some taps } : Capture).stop
          return (Except.error error, stopped)) :=
    (stop _).bind (fun _ _ => .value trivial) fun _ notTrue => absurd trivial notTrue
  refine after (Plain.startTap taps.stdout capture.nonblocking) fun first => ?_
  cases first with
  | error error => exact stopped taps _
  | ok first =>
      refine after (Plain.startTap taps.stderr capture.nonblocking) fun second => ?_
      cases second with
      | error error => exact stopped _ _
      | ok second => exact of_plain (.value trivial)

theorem start (capture : Capture) : LogsLast Failed capture.start := by
  unfold Capture.start
  split
  · exact of_plain (.value trivial)
  · refine after Plain.pipe fun first => ?_
    cases first with
    | error error => exact of_plain (.value trivial)
    | ok stdoutPipe =>
        refine after Plain.pipe fun second => ?_
        cases second with
        | error error => exact after (Plain.closePipe stdoutPipe) fun _ => of_plain (.value trivial)
        | ok stderrPipe =>
            refine after (Plain.redirectBoth _) fun redirected => ?_
            cases redirected with
            | error error =>
                refine after (Plain.closePipe stderrPipe) fun _ => ?_
                exact after (Plain.closePipe stdoutPipe) fun _ => of_plain (.value trivial)
            | ok scopes => exact startReaders capture _

end LogsLast

end CompileDriver
