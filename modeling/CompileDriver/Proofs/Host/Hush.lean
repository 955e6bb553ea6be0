import CompileDriver.Proofs.Host.Mute
import CompileDriver.Proofs.Host.WellFormed

/-!
# What the process shows

What anyone sees of the process is what the initial targets of its streams receive.  `Tells`
tells what a stretch of an execution adds to that; a stretch that adds nothing is hushed.

A process is at rest when its line buffer is empty and debug records are not logged.  Then
flushing and logging show nothing, and so the whole work on descriptors, files and threads
is hushed.
-/

namespace CompileDriver

namespace Host

/-- Nothing is held back, and debug records are not logged. -/
structure AtRest (host : Host) : Prop where
  lineBuffer : host.lineBuffer = []
  unlogged : host.threshold.admits .debug = false

/-- The initial targets of the streams have received `said`.  The line buffer and the log are
as they were, and pipes, threads and rounds of moves have only been added or used up. -/
structure Tells (said : Stream → Bytes) (before after : Host) : Prop where
  received : ∀ stream,
    after.received.get stream = before.received.get stream ++ said stream
  lineBuffer : after.lineBuffer = before.lineBuffer
  threshold : after.threshold = before.threshold
  schedule : after.schedule <:+ before.schedule
  grows : Grows before after

/-- Nothing was shown. -/
abbrev Hushes (before after : Host) : Prop :=
  Tells (fun _ => []) before after

section

variable {first second third before after : Host} {said more : Stream → Bytes}

theorem Tells.trans (start : Tells said first second) (rest : Tells more second third) :
    Tells (fun stream => said stream ++ more stream) first third where
  received stream := by rw [rest.received, start.received, List.append_assoc]
  lineBuffer := rest.lineBuffer.trans start.lineBuffer
  threshold := rest.threshold.trans start.threshold
  schedule := rest.schedule.trans start.schedule
  grows := start.grows.trans rest.grows

theorem Tells.atRest (tells : Tells said before after) (rest : before.AtRest) : after.AtRest where
  lineBuffer := tells.lineBuffer.trans rest.lineBuffer
  unlogged := tells.threshold ▸ rest.unlogged

/-- Nothing was shown before. -/
theorem Tells.after_hush (tells : Tells said second third) (hush : Hushes first second) :
    Tells said first third := by
  simpa only [List.nil_append] using hush.trans tells

/-- Nothing was shown afterwards. -/
theorem Tells.before_hush (tells : Tells said first second) (hush : Hushes second third) :
    Tells said first third := by
  simpa only [List.append_nil] using tells.trans hush

end

namespace Hushes

variable {before after : Host}

theorem of_same (received : after.received = before.received)
    (lineBuffer : after.lineBuffer = before.lineBuffer)
    (threshold : after.threshold = before.threshold)
    (schedule : after.schedule <:+ before.schedule) (grows : Grows before after) :
    Hushes before after :=
  ⟨fun stream => by rw [received, List.append_nil], lineBuffer, threshold, schedule, grows⟩

theorem refl (host : Host) : Hushes host host :=
  .of_same rfl rfl rfl (List.suffix_refl _) (.refl host)

theorem trans {first second third : Host} (start : Hushes first second)
    (rest : Hushes second third) : Hushes first third :=
  Tells.trans start rest

theorem readersRan (ran : ReadersRan before after) : Hushes before after :=
  .of_same ran.received ran.lineBuffer (by rw [ran.rest]) ran.schedule_suffix ran.grows

theorem note (host : Host) (event : Event) : Hushes host (host.note event) :=
  .of_same rfl rfl rfl (List.suffix_refl _) (.refl host)

theorem endCall (host : Host) : Hushes host host.endCall :=
  (note host .systemCall).trans (readersRan (readersRan_takeTurn _))

theorem table (host : Host) (table : DescriptorTable) : Hushes host { host with table } :=
  .of_same rfl rfl rfl (List.suffix_refl _) (.refl host)

theorem files (host : Host) (files : FileTree) : Hushes host { host with files } :=
  .of_same rfl rfl rfl (List.suffix_refl _) (.refl host)

end Hushes

/-! ## Writing -/

/-- Only an initial target receives what is written to it. -/
theorem received_deliver (host : Host) (file : OpenFile) (bytes : Bytes) :
    (host.deliver file bytes).2.received =
      match file with
      | .initial stream => host.received.modify stream (· ++ bytes)
      | _ => host.received := by
  cases file with
  | pipeWriter pipe =>
      simp only [deliver]
      split
      · rw [(fed_feed pipe host bytes).rest]
      · exact (readersRan_takeTurn host).received
  | initial stream => exact (readersRan_takeTurn _).received
  | entry opening place => exact (readersRan_takeTurn _).received
  | emptyInput => exact (readersRan_takeTurn host).received
  | pipeReader pipe => exact (readersRan_takeTurn host).received
  | discard opening => exact (readersRan_takeTurn host).received

/-- What the initial targets receive of some bytes that are written to a stream. -/
def voiced (host : Host) (stream : Stream) (bytes : Bytes) : Stream → Bytes :=
  match host.opened stream.number with
  | some (.initial target) => target.only bytes
  | _ => fun _ => []

theorem threshold_deliver (host : Host) (file : OpenFile) (bytes : Bytes) :
    (host.deliver file bytes).2.threshold = host.threshold := by
  rcases host.deliver_cases file bytes with ⟨pipe, -, fed⟩ | ⟨_, _, ran⟩
  · rw [fed, (fed_feed pipe host bytes).rest]
  · rw [ran.rest]

theorem schedule_deliver (host : Host) (file : OpenFile) (bytes : Bytes) :
    (host.deliver file bytes).2.schedule <:+ host.schedule := by
  rcases host.deliver_cases file bytes with ⟨pipe, -, fed⟩ | ⟨_, _, ran⟩
  · exact fed ▸ (fed_feed pipe host bytes).schedule_suffix
  · exact ran.schedule_suffix

/-- Writing to a stream tells what is written to the target of the stream. -/
theorem tells_write (host : Host) (stream : Stream) (bytes : Bytes) :
    Tells (host.voiced stream bytes) host (SystemCall.write stream.number bytes host).2 := by
  unfold voiced
  cases found : host.opened stream.number with
  | none =>
      rw [SystemCall.write_closed found]
      exact Hushes.readersRan (readersRan_takeTurn host)
  | some file =>
      have delivered : Tells (match (some file : Option OpenFile) with
          | some (.initial target) => target.only bytes
          | _ => fun _ => []) host (host.deliver file bytes).2 := by
        refine ⟨fun other => ?_, lineBuffer_deliver host file bytes,
          threshold_deliver host file bytes, schedule_deliver host file bytes,
          grows_deliver host file bytes⟩
        rw [received_deliver]
        cases file with
        | initial target =>
            cases target <;> cases other <;>
              simp [PerStream.modify, PerStream.set, PerStream.get, Stream.only]
        | _ => exact (List.append_nil _).symm
      rw [SystemCall.write_open found]
      cases (host.deliver file bytes).1 with
      | ok done => exact delivered.before_hush (.note _ _)
      | error error => exact delivered

end Host

/-- A process at rest drops debug records. -/
theorem Log.debug_at_rest (message : String) {host : Host} (rest : host.AtRest) :
    Log.debug message host = (⟨⟩, host) := by
  rw [Log.debug, Action.bind_apply, Action.get_apply]
  cases host.logger with
  | none => rfl
  | some logger =>
      dsimp only
      rw [Logger.log, Action.bind_apply, Action.get_apply]
      dsimp only
      rw [rest.unlogged]
      rfl

variable {α : Type}

/-! ## Hushed actions -/

/-- To show nothing, for a process at rest. -/
def hush : Discipline where
  needs := Host.AtRest
  allows := Host.Hushes
  refl := .refl
  trans := .trans
  keeps rest hushes := hushes.atRest rest

/-- When the process is at rest, the action shows nothing. -/
abbrev Hushed (action : Action α) : Prop :=
  hush.Governs action fun _ => True

namespace Hushed

theorem perform {call : Host → Except OsError (α × Host)}
    (kept : ∀ host value next, call host = .ok (value, next) → host.Hushes next) :
    Hushed (SystemCall.perform call) := by
  intro host _
  rcases SystemCall.perform_cases call host with ⟨error, -, failed⟩ | ⟨value, next, done, granted⟩
  · rw [Discipline.GovernsAt, failed]
    exact ⟨.endCall host, trivial⟩
  · rw [Discipline.GovernsAt, granted]
    exact ⟨(kept host value next done).trans (.endCall next), trivial⟩

theorem acquire {call : Host → Except OsError (α × Host)}
    (kept : ∀ host value next, call host = .ok (value, next) → host.Hushes next) :
    Hushed (SystemCall.acquire call) := by
  intro host _
  obtain ⟨refusals, outcome⟩ := SystemCall.acquire_cases call host
  have refused : host.Hushes { host with refusals } :=
    .of_same rfl rfl rfl (List.suffix_refl _) (.refl host)
  rcases outcome with ⟨error, failed⟩ | ⟨value, next, done, granted⟩
  · rw [Discipline.GovernsAt, failed]
    exact ⟨refused.trans (.endCall _), trivial⟩
  · rw [Discipline.GovernsAt, granted]
    exact ⟨(refused.trans (kept _ value next done)).trans (.endCall next), trivial⟩

theorem pipe : Hushed SystemCall.pipe := by
  apply acquire
  intro host value next done
  obtain ⟨-, rfl⟩ := Host.makePipe_ok done
  exact .of_same rfl rfl rfl (List.suffix_refl _) ⟨by simp, Nat.le_refl _⟩

theorem duplicate (number : Nat) : Hushed (SystemCall.duplicate number) := by
  apply acquire
  intro host value next done
  obtain ⟨-, -, -, rfl⟩ := Host.duplicate_ok done
  exact .table host _

theorem redirect (source target : Nat) : Hushed (SystemCall.redirect source target) := by
  apply acquire
  intro host value next done
  obtain ⟨-, rfl⟩ := Host.redirect_ok done
  exact .table host _

theorem giveBack (saved target : Nat) : Hushed (SystemCall.giveBack saved target) := by
  apply perform
  intro host value next done
  obtain ⟨-, rfl⟩ := Host.redirect_ok done
  exact .table host _

theorem close (number : Nat) : Hushed (SystemCall.close number) :=
  fun host _ => ⟨(Host.Hushes.table host _).trans (.endCall _), trivial⟩

theorem openAs (file : Nat → OpenFile) : Hushed (SystemCall.openAs file) := by
  apply acquire
  intro host value next done
  obtain ⟨-, rfl⟩ := Host.openAs_ok done
  exact .of_same rfl rfl rfl (List.suffix_refl _) (.refl host)

theorem setPolling (number : Nat) : Hushed (SystemCall.setPolling number) := by
  apply acquire
  intro host value next done
  rw [Host.setPolling_ok done]
  exact .refl host

theorem startReader (source : Nat) : Hushed (SystemCall.startReader source) := by
  apply acquire
  intro host value next done
  obtain ⟨-, rfl⟩ := Host.startReader_ok done
  exact .of_same rfl rfl rfl (List.suffix_refl _) ⟨Nat.le_refl _, Nat.le_succ _⟩

theorem joinReader (thread : Nat) : Hushed (SystemCall.joinReader thread) := by
  intro host _
  have waited : host.Hushes (host.await fun host => !host.isReading thread) :=
    .readersRan (Host.readersRan_await host _)
  have taken : (host.await fun host => !host.isReading thread).Hushes (host.join thread).2 :=
    .of_same rfl rfl rfl (List.suffix_refl _) (.refl _)
  exact ⟨waited.trans taken, trivial⟩

theorem elapsed : Hushed SystemCall.elapsed := by
  apply Discipline.Governs.look
  intro host _
  split
  · exact .value trivial
  · exact ⟨.of_same rfl rfl rfl (List.suffix_refl _) (.refl host), trivial⟩

theorem flush (stream : Stream) : Hushed stream.flush := by
  intro host rest
  rw [Discipline.GovernsAt, stream.flush_at_rest rest.lineBuffer]
  exact ⟨.refl host, trivial⟩

theorem debug (message : String) : Hushed (Log.debug message) := by
  intro host rest
  rw [Discipline.GovernsAt, Log.debug_at_rest message rest]
  exact ⟨.refl host, trivial⟩

/-! ## Guards -/

theorem letsGuard : hush.LetsGuard fun _ => False where
  toLetsAcquire := .of_calls pipe duplicate (openAs .discard) redirect giveBack close setPolling
    startReader fun host _ => .of_same rfl rfl rfl (List.suffix_refl _) (.refl host)
  own _ := not_false
  flush := flush
  joinReader := joinReader
  reportEarlyEnd _ early := by
    cases early with
    | none => exact .value trivial
    | some error => exact debug _
  leaveVisible _ _ := debug _

theorem engage (stream : Stream) (wanted : Bool) : Hushed (Suppressor.engage stream wanted) :=
  (letsGuard.engage stream wanted).weaken fun _ _ => trivial

theorem restoreSuppressor (suppressor : Suppressor) : Hushed suppressor.restore :=
  letsGuard.restoreSuppressor suppressor.own_none

theorem intoOutput (capture : Capture) : Hushed capture.intoOutput :=
  letsGuard.intoOutput capture.own_none

theorem start (capture : Capture) : Hushed capture.start :=
  (letsGuard.start capture.own_none).weaken fun _ _ => trivial

end Hushed

end CompileDriver
