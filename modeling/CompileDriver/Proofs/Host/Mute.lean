import CompileDriver.Proofs.Guard.Disciplined
import CompileDriver.Proofs.Host.Passage
import CompileDriver.Proofs.Host.Spawn

/-!
# Mute stretches

Acquiring descriptors and giving them back delivers nothing and leaves the line
buffer alone.  Guards do this too, as long as nothing is held back of their stream, since
then flushing has nothing to deliver.
-/

namespace CompileDriver

namespace Host

/-- Between two states nothing was delivered to a stream, and the line buffer was left
alone. -/
structure Mute (before after : Host) : Prop where
  lineBuffer : after.lineBuffer = before.lineBuffer
  grown : before.journal <:+ after.journal
  delivered : ∀ stream : Stream, after.deliveredSince before stream.number = []

namespace Mute

variable {first second third : Host}

theorem of_same {before after : Host} (lineBuffer : after.lineBuffer = before.lineBuffer)
    (journal : after.journal = before.journal) : Mute before after where
  lineBuffer := lineBuffer
  grown := journal ▸ List.suffix_refl _
  delivered stream := by
    have nothing : after.journal = [] ++ before.journal := journal
    simp [deliveredSince, historySince_of_journal nothing]

theorem refl (host : Host) : Mute host host :=
  .of_same rfl rfl

theorem trans (start : Mute first second) (rest : Mute second third) : Mute first third where
  lineBuffer := rest.lineBuffer.trans start.lineBuffer
  grown := start.grown.trans rest.grown
  delivered stream := by
    rw [deliveredSince_trans start.grown rest.grown, start.delivered, rest.delivered]
    rfl

theorem readersRan {before after : Host} (ran : ReadersRan before after) : Mute before after :=
  .of_same ran.lineBuffer ran.journal

/-- To note something is mute, unless it is a delivery. -/
theorem note (host : Host) {event : Event}
    (silent : ∀ number bytes, event ≠ .delivered number bytes) : Mute host (host.note event) where
  lineBuffer := rfl
  grown := List.suffix_cons _ _
  delivered stream := by
    rw [deliveredSince_note (List.suffix_refl _)]
    cases event with
    | delivered number bytes => exact absurd rfl (silent number bytes)
    | _ => simp [deliveredSince, historySince_self, Moment.deliveredTo]

theorem endCall (host : Host) : Mute host host.endCall :=
  (note host fun _ _ => Event.noConfusion).trans (readersRan (readersRan_takeTurn _))

/-- Nothing passes while nothing is delivered. -/
theorem passedSince {base before after : Host} (mute : Mute before after)
    (grown : base.journal <:+ before.journal) (stream : Stream) (file : OpenFile) :
    after.passedSince base stream.number file = before.passedSince base stream.number file := by
  rw [passedSince_trans grown mute.grown, passedSince_of_not_delivered (mute.delivered stream),
    List.append_nil]

theorem heldBack {before after : Host} (mute : Mute before after) :
    after.heldBack = before.heldBack :=
  heldBack_congr mute.lineBuffer

end Mute

end Host

variable {α : Type}

/-- To deliver nothing and to leave the line buffer alone. -/
def muteness : Discipline where
  needs _ := True
  allows := Host.Mute
  refl := .refl
  trans := .trans
  keeps _ _ := trivial

/-- The same for hosts whose line buffer is empty. -/
def mutenessAtRest : Discipline where
  needs host := host.lineBuffer = []
  allows := Host.Mute
  refl := .refl
  trans := .trans
  keeps empty mute := mute.lineBuffer.trans empty

/-- The same for hosts that hold back nothing of a stream. -/
def mutenessOf (stream : Stream) : Discipline where
  needs host := host.heldBack stream = []
  allows := Host.Mute
  refl := .refl
  trans := .trans
  keeps empty mute := (congrFun mute.heldBack stream).trans empty

/-- Whatever the host, the action delivers nothing and leaves the line buffer alone. -/
abbrev IsMute (action : Action α) : Prop :=
  muteness.Governs action fun _ => True

/-- When nothing is held back, the action delivers nothing. -/
abbrev IsMuteAtRest (action : Action α) : Prop :=
  mutenessAtRest.Governs action fun _ => True

/-- When nothing of a stream is held back, the action delivers nothing. -/
abbrev IsMuteFor (stream : Stream) (action : Action α) : Prop :=
  (mutenessOf stream).Governs action fun _ => True

theorem IsMute.of {action : Action α} (mute : IsMute action) (stream : Stream) :
    IsMuteFor stream action :=
  mute.relax (fun _ _ => trivial) fun _ _ same => same

theorem IsMuteFor.atRest {stream : Stream} {action : Action α} (mute : IsMuteFor stream action) :
    IsMuteAtRest action :=
  mute.relax (fun _ empty => Host.heldBack_eq_nil empty stream) fun _ _ same => same

/-! ## System calls -/

namespace IsMute

theorem perform {call : Host → Except OsError (α × Host)}
    (kept : ∀ host value next, call host = .ok (value, next) →
      next.lineBuffer = host.lineBuffer ∧ next.journal = host.journal) :
    IsMute (SystemCall.perform call) := by
  intro host _
  rcases SystemCall.perform_cases call host with ⟨error, -, failed⟩ | ⟨value, next, done, granted⟩
  · rw [Discipline.GovernsAt, failed]
    exact ⟨.endCall host, trivial⟩
  · rw [Discipline.GovernsAt, granted]
    obtain ⟨lineBuffer, journal⟩ := kept host value next done
    have made : Host.Mute host next := .of_same lineBuffer journal
    exact ⟨made.trans (.endCall next), trivial⟩

theorem acquire {call : Host → Except OsError (α × Host)}
    (kept : ∀ host value next, call host = .ok (value, next) →
      next.lineBuffer = host.lineBuffer ∧ next.journal = host.journal) :
    IsMute (SystemCall.acquire call) := by
  intro host _
  obtain ⟨refusals, outcome⟩ := SystemCall.acquire_cases call host
  have refused : Host.Mute host { host with refusals } := .of_same rfl rfl
  rcases outcome with ⟨error, failed⟩ | ⟨value, next, done, granted⟩
  · rw [Discipline.GovernsAt, failed]
    exact ⟨refused.trans (.endCall _), trivial⟩
  · rw [Discipline.GovernsAt, granted]
    obtain ⟨lineBuffer, journal⟩ := kept { host with refusals } value next done
    have made : Host.Mute { host with refusals } next := .of_same lineBuffer journal
    exact ⟨refused.trans (made.trans (.endCall next)), trivial⟩

theorem pipe : IsMute SystemCall.pipe := by
  apply acquire
  intro host value next done
  obtain ⟨-, rfl⟩ := Host.makePipe_ok done
  exact ⟨rfl, rfl⟩

theorem duplicate (number : Nat) : IsMute (SystemCall.duplicate number) := by
  apply acquire
  intro host value next done
  obtain ⟨-, -, -, rfl⟩ := Host.duplicate_ok done
  exact ⟨rfl, rfl⟩

theorem openAs (file : Nat → OpenFile) : IsMute (SystemCall.openAs file) := by
  apply acquire
  intro host value next done
  obtain ⟨-, rfl⟩ := Host.openAs_ok done
  exact ⟨rfl, rfl⟩

theorem openDiscard : IsMute SystemCall.openDiscard :=
  openAs .discard

theorem redirect (source target : Nat) : IsMute (SystemCall.redirect source target) := by
  apply acquire
  intro host value next done
  obtain ⟨-, rfl⟩ := Host.redirect_ok done
  exact ⟨rfl, rfl⟩

theorem giveBack (saved target : Nat) : IsMute (SystemCall.giveBack saved target) := by
  apply perform
  intro host value next done
  obtain ⟨-, rfl⟩ := Host.redirect_ok done
  exact ⟨rfl, rfl⟩

theorem close (number : Nat) : IsMute (SystemCall.close number) := by
  intro host _
  have freed : Host.Mute host { host with table := host.table.close number } := .of_same rfl rfl
  exact ⟨freed.trans (.endCall _), trivial⟩

theorem setPolling (number : Nat) : IsMute (SystemCall.setPolling number) := by
  apply acquire
  intro host value next done
  rw [Host.setPolling_ok done]
  exact ⟨rfl, rfl⟩

theorem startReader (source : Nat) : IsMute (SystemCall.startReader source) := by
  apply acquire
  intro host value next done
  obtain ⟨-, rfl⟩ := Host.startReader_ok done
  exact ⟨rfl, rfl⟩

theorem letsAcquire : muteness.LetsAcquire fun _ => False :=
  .of_calls pipe duplicate openDiscard redirect giveBack close setPolling startReader
    fun _ _ => .of_same rfl rfl

theorem letsCollect : muteness.LetsCollect where
  openAs := openAs
  pipe := pipe
  close := close
  launched host _ := .note host fun _ _ => Event.noConfusion
  files _ _ := .of_same rfl rfl

/-! ## Parts of a capture -/

theorem closePipe (ends : Nat × Nat) : IsMute (Capture.closePipe ends) :=
  letsAcquire.closePipe ⟨not_false, not_false⟩

theorem askToStop (tap : Tap) : IsMute (Capture.askToStop tap) :=
  letsAcquire.askToStop tap

theorem startTap (tap : Tap) (nonblocking : Bool) : IsMute (Capture.startTap tap nonblocking) :=
  letsAcquire.startTap tap nonblocking

end IsMute

/-- Flushing does nothing when nothing is held back of the stream. -/
theorem Stream.flush_unheld (stream : Stream) {host : Host} (empty : host.heldBack stream = []) :
    stream.flush host = (⟨⟩, host) := by
  cases stream with
  | stdout =>
      have nothing : host.lineBuffer = [] := empty
      simp [flush, flushLines, nothing]
  | stderr => rfl

theorem Stream.flush_at_rest (stream : Stream) {host : Host} (empty : host.lineBuffer = []) :
    stream.flush host = (⟨⟩, host) :=
  stream.flush_unheld (Host.heldBack_eq_nil empty stream)

/-! ## Guards of one stream -/

namespace IsMuteFor

theorem flush (stream : Stream) : IsMuteFor stream stream.flush := by
  intro host empty
  rw [Discipline.GovernsAt, stream.flush_unheld empty]
  exact ⟨.refl host, trivial⟩

theorem save (stream : Stream) :
    (mutenessOf stream).Governs (Scope.save stream) fun outcome =>
      ∀ scope, outcome = .ok scope → scope.stream = stream := by
  apply (flush stream).bind
  intro _ _
  apply ((IsMute.duplicate stream.number).of stream).bind
  intro outcome _
  cases outcome with
  | error error =>
      apply Discipline.Governs.value
      rintro _ ⟨⟩
  | ok copy =>
      apply Discipline.Governs.value
      rintro _ ⟨⟩
      rfl

theorem restore (scope : Scope) : IsMuteFor scope.stream scope.restore := by
  unfold Scope.restore
  split
  · exact .value trivial
  · rename_i copy saved
    apply (flush scope.stream).bind
    intro _ _
    apply ((IsMute.giveBack copy scope.stream.number).of scope.stream).discarded.bind
    intro _ _
    exact ((IsMute.close copy).of scope.stream).bind fun _ _ => .value trivial

/-- Hiding a stream delivers nothing, whether it succeeds or not. -/
theorem discardStream (stream : Stream) :
    IsMuteFor stream (Suppressor.discardStream stream) := by
  apply (save stream).bind
  intro saved known
  cases saved with
  | error error => exact .value trivial
  | ok scope =>
      obtain rfl := known scope rfl
      apply (IsMute.openDiscard.of scope.stream).bind
      intro opened _
      cases opened with
      | error error => exact (restore scope).discarded.bind fun _ _ => .value trivial
      | ok device =>
          apply ((IsMute.redirect device scope.stream.number).of scope.stream).bind
          intro redirected _
          cases redirected with
          | error error =>
              exact ((IsMute.close device).of scope.stream).bind fun _ _ =>
                (restore scope).discarded.bind fun _ _ => .value trivial
          | ok done =>
              exact ((IsMute.close device).of scope.stream).bind fun _ _ => .value trivial

end IsMuteFor

namespace IsMuteAtRest

theorem letsDivert : mutenessAtRest.LetsDivert fun _ => False where
  toLetsAcquire := IsMute.letsAcquire.relax (fun _ _ => trivial) fun _ _ same => same
  own _ := not_false
  flush stream := (IsMuteFor.flush stream).atRest

theorem redirectBoth (writers : PerStream Nat) : IsMuteAtRest (Capture.redirectBoth writers) :=
  (letsDivert.redirectBoth fun _ => not_false).weaken fun _ _ => trivial

end IsMuteAtRest

/-! ## Passing nothing through one stream -/

/-- To pass nothing through a stream. -/
def withholding (stream : Stream) : Discipline where
  needs _ := True
  allows before after := before.journal <:+ after.journal ∧
    ∀ file, after.passedSince before stream.number file = []
  refl host := ⟨List.suffix_refl _, host.passedSince_self stream.number⟩
  trans := fun ⟨grown, nothing⟩ ⟨grownAgain, nothingAgain⟩ =>
    ⟨grown.trans grownAgain, fun file => by
      rw [Host.passedSince_trans grown grownAgain, nothing, nothingAgain, List.append_nil]⟩
  keeps _ _ := trivial

namespace Withholding

theorem of_mute (stream : Stream) {before after : Host} (mute : before.Mute after) :
    (withholding stream).allows before after :=
  ⟨mute.grown, Host.passedSince_of_not_delivered (mute.delivered stream)⟩

/-- Nothing passes through a stream when another one is written to. -/
theorem letsWrite {stream other : Stream} (different : stream ≠ other) :
    (withholding stream).LetsWrite other where
  write bytes host _ := by
    refine ⟨⟨(SystemCall.write_utterances other.number bytes host).notes.grown, fun file => ?_⟩,
      trivial⟩
    rw [Host.passedSince_write_other different (List.suffix_refl _), Host.passedSince_self]
  lineBuffer host _ := ⟨List.suffix_refl _, host.passedSince_self stream.number⟩

/-- Guards pass nothing through standard error, whatever becomes of what standard output holds
back. -/
theorem letsDivert : (withholding .stderr).LetsDivert fun _ => False where
  toLetsAcquire := IsMute.letsAcquire.relax (fun _ _ => trivial) fun _ _ => of_mute .stderr
  own _ := not_false
  flush stream := by
    cases stream with
    | stdout => exact (letsWrite (by decide)).flush
    | stderr => exact .value trivial

theorem redirectBoth (writers : PerStream Nat) :
    (withholding .stderr).Governs (Capture.redirectBoth writers) fun _ => True :=
  (letsDivert.redirectBoth fun _ => not_false).weaken fun _ _ => trivial

theorem discardStream (stream : Stream) :
    (withholding .stderr).Governs (Suppressor.discardStream stream) fun _ => True :=
  (letsDivert.discardStream stream).weaken fun _ _ => trivial

end Withholding

end CompileDriver
