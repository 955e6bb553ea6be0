import CompileDriver.Proofs.Guard.Life

/-!
# The life cycle of a capture

However a capture is used: it is active exactly from a start that succeeds to the next
stop, using it at the wrong time changes nothing, and whenever it is not active the
numbers refer to what they referred to at first.  What the process writes is captured
if it was written while the capture was active, also when it was still in the line
buffer when the capture was stopped; all the rest goes to the original targets of the
streams, also when it was still in the line buffer when the capture was started.

Only what standard output refuses at a start stays in the line buffer, and is captured
although it was written before.
-/

namespace CompileDriver

namespace Capture

/-- What is true of each deed of a life, if the numbers refer to `files` while the
capture is not active. -/
structure Deed.Orderly (files : OpenFiles) (deed : Deed) : Prop where
  /-- Starting an active capture is refused and changes nothing. -/
  misused : deed.use = .start → deed.before.isActive = true →
    deed.outcome = .error .alreadyActive ∧ deed.after = deed.before
  /-- Stopping a capture that is not active changes nothing. -/
  stopped : deed.use = .stop → deed.before.isActive = false → deed.after = deed.before
  /-- Asking what has been captured changes nothing. -/
  asked : ∀ stream, deed.use = .read stream → deed.after = deed.before
  /-- A capture is active after a start that succeeds, until it is stopped. -/
  active : deed.after.isActive = true ↔
    (deed.use = .start ∧ deed.outcome = .ok ()) ∨
      (deed.before.isActive = true ∧ deed.use ≠ .stop)
  /-- What has been captured is never lost. -/
  grows : ∀ stream, deed.before.bytes stream <+: deed.after.bytes stream
  restored : deed.after.isActive = false → deed.after.host.opened = files
  /-- What is written while the capture is active reaches no file. -/
  hidden : deed.before.isActive = true →
    deed.after.host.received = deed.before.host.received ∧
      deed.after.host.files = deed.before.host.files

/-- The capture is idle or underway. -/
def Lives (first : Situation) (files : PerStream OpenFile) (plain caught : Stream → Bytes)
    (now : Situation) : Prop :=
  Idle first files plain caught now ∨ Underway first files plain caught now

section

variable {first now : Situation} {files : PerStream OpenFile} {plain caught : Stream → Bytes}

/-! ## One use -/

theorem Idle.lives (idle : Idle first files plain caught now) :
    Lives first files plain caught now :=
  .inl idle

theorem Underway.lives (underway : Underway first files plain caught now) :
    Lives first files plain caught now :=
  .inr underway

/-- Nothing is added to what was written. -/
theorem Lives.unwritten (lives : Lives first files plain caught now) :
    Lives first files (fun stream => plain stream ++ [])
      (fun stream => caught stream ++ []) now := by
  simpa only [List.append_nil] using lives

@[simp]
theorem Situation.use_deed (now : Situation) (use : Use) : (now.deed use).use = use :=
  rfl

/-- A deed that is neither a start nor a stop leaves the capture what it is. -/
theorem Deed.orderly_of_kept {opened : OpenFiles} {deed : Deed} (notStart : deed.use ≠ .start)
    (notStop : deed.use ≠ .stop)
    (asked : ∀ stream, deed.use = .read stream → deed.after = deed.before)
    (kept : deed.after.capture = deed.before.capture)
    (collects : Host.Collects deed.before.host deed.after.host)
    (restored : deed.after.isActive = false → deed.after.host.opened = opened)
    (hidden : deed.before.isActive = true →
      deed.after.host.received = deed.before.host.received ∧
        deed.after.host.files = deed.before.host.files) : deed.Orderly opened where
  misused start := absurd start notStart
  stopped stop := absurd stop notStop
  asked := asked
  active := by simp [Situation.isActive, kept, notStart, notStop]
  grows stream := by
    rw [Situation.bytes, Situation.bytes, kept]
    exact deed.before.capture.bytes_of_collects stream collects
  restored := restored
  hidden := hidden

/-- A deed that changes nothing: an active capture is not started, and an inactive one is not
stopped. -/
theorem Deed.orderly_of_unchanged {opened : OpenFiles} {deed : Deed}
    (unchanged : deed.after = deed.before)
    (refused : deed.use = .start →
      deed.before.isActive = true ∧ deed.outcome = .error .alreadyActive)
    (idle : deed.use = .stop → deed.before.isActive = false)
    (restored : deed.before.isActive = false → deed.before.host.opened = opened) :
    deed.Orderly opened where
  misused start _ := ⟨(refused start).2, unchanged⟩
  stopped _ _ := unchanged
  asked _ _ := unchanged
  active := by
    rw [unchanged]
    constructor
    · intro active
      refine .inr ⟨active, fun stop => ?_⟩
      rw [idle stop] at active
      cases active
    · rintro (⟨start, -⟩ | ⟨active, -⟩)
      · exact (refused start).1
      · exact active
  grows stream := by simp [unchanged]
  restored := by rwa [unchanged]
  hidden _ := by simp [unchanged]

/-- To start a capture that is not active makes it active, or fails. -/
theorem Deed.orderly_of_start {opened : OpenFiles} {deed : Deed} (start : deed.use = .start)
    (inactive : deed.before.isActive = false)
    (active : deed.after.isActive = true ↔ deed.outcome = .ok ())
    (grows : ∀ stream, deed.before.bytes stream <+: deed.after.bytes stream)
    (restored : deed.after.isActive = false → deed.after.host.opened = opened) :
    deed.Orderly opened where
  misused _ active := by simp [inactive] at active
  stopped stop := by simp [start] at stop
  asked stream read := by simp [start] at read
  active := by simp [active, start, inactive]
  grows := grows
  restored := restored
  hidden active := by simp [inactive] at active

/-- To stop an active capture makes it inactive. -/
theorem Deed.orderly_of_stop {opened : OpenFiles} {deed : Deed} (stop : deed.use = .stop)
    (active : deed.before.isActive = true) (inactive : deed.after.isActive = false)
    (grows : ∀ stream, deed.before.bytes stream <+: deed.after.bytes stream)
    (restored : deed.after.host.opened = opened)
    (hidden : deed.after.host.received = deed.before.host.received ∧
      deed.after.host.files = deed.before.host.files) : deed.Orderly opened where
  misused start := by simp [stop] at start
  stopped _ inactive := by simp [active] at inactive
  asked stream read := by simp [stop] at read
  active := by simp [inactive, stop]
  grows := grows
  restored _ := restored
  hidden _ := hidden

/-- To start an idle capture: it stays idle, or it gets underway. -/
theorem Idle.starting (idle : Idle first files plain caught now)
    (beginning : Beginning first files) :
    (now.deed .start).Orderly first.host.opened ∧
      Lives first files plain (fun stream => caught stream ++ (now.deed .start).spilt stream)
        (now.deed .start).after := by
  have starts := idle.start beginning
  have adds (stream : Stream) := now.capture.start_adds stream now.host trivial
  have before (stream : Stream) : now.bytes stream = now.capture.captured.get stream :=
    bytes_of_inactive idle.inactive stream now.host
  have inactive := idle.isActive
  rcases begun : now.capture.start now.host with ⟨⟨outcome, after⟩, started⟩
  have deed : now.deed .start =
      { use := .start
        before := now
        outcome
        after := { capture := after, host := started } } := by
    simp only [Situation.deed, Use.perform, begun]
  have grows (stream : Stream) :
      now.bytes stream <+: Situation.bytes { capture := after, host := started } stream := by
    rw [before]
    have more := adds stream
    rw [begun] at more
    exact more.trans (after.captured_prefix stream started)
  rw [begun] at starts
  rw [deed]
  rcases outcome with error | done
  · have stillIdle : Idle first files plain
        (fun stream => caught stream ++ error.spills (now.host.stage.unflushed stream))
        { capture := after, host := started } := starts
    refine ⟨Deed.orderly_of_start rfl inactive ?_ grows fun _ => stillIdle.shows.files, ?_⟩
    · simp [stillIdle.isActive]
    · simpa [Deed.spilt, inactive] using stillIdle.lives
  · obtain ⟨threads, isBegun⟩ := starts
    have underway := isBegun.underway
    refine ⟨Deed.orderly_of_start rfl inactive ?_ grows ?_, ?_⟩
    · simp [underway.isActive]
    · simp [underway.isActive]
    · simpa [Deed.spilt, inactive] using underway.lives

/-- A use of an idle capture. -/
theorem Idle.deed (idle : Idle first files plain caught now) (beginning : Beginning first files)
    (use : Use) :
    (now.deed use).Orderly first.host.opened ∧
      Lives first files (fun stream => plain stream ++ use.written stream)
        (fun stream => caught stream ++ (now.deed use).spilt stream) (now.deed use).after := by
  have inactive := idle.isActive
  have notHidden {rest : Prop} (active : now.isActive = true) : rest := by
    rw [inactive] at active
    cases active
  cases use with
  | start =>
      obtain ⟨orderly, lives⟩ := idle.starting beginning
      exact ⟨orderly, by simpa [Use.written] using lives⟩
  | stop =>
      have deed : now.deed .stop =
          { use := .stop, before := now, outcome := .ok (), after := now } := by
        simp only [Situation.deed, Use.perform, Action.bind_apply, Action.pure_apply, Capture.stop,
          idle.inactive]
      rw [deed]
      refine ⟨?_, idle.lives.unwritten⟩
      exact Deed.orderly_of_unchanged rfl (by simp) (fun _ => inactive) fun _ => idle.shows.files
  | read stream =>
      refine ⟨?_, idle.lives.unwritten⟩
      exact Deed.orderly_of_unchanged rfl (by simp) (by simp) fun _ => idle.shows.files
  | write stream bytes =>
      have written := idle.write beginning stream bytes
      constructor
      · exact Deed.orderly_of_kept (by simp) (by simp) (by simp) rfl
          (Host.Utterances.collects (stream.write_utterances bytes now.host))
          (fun _ => written.shows.files) notHidden
      · have unspilt (other : Stream) : (now.deed (.write stream bytes)).spilt other = [] := rfl
        simp only [unspilt, List.append_nil]
        exact written.lives
  | readers round =>
      have ran := Host.readersRan_playRound now.host round
      refine ⟨?_, (idle.playRound round).lives.unwritten⟩
      exact Deed.orderly_of_kept (by simp) (by simp) (by simp) rfl ran.collects
        (fun _ => (idle.playRound round).shows.files) notHidden

/-- A use of a capture that is underway. -/
theorem Underway.deed (underway : Underway first files plain caught now) {use : Use}
    (sound : use.IsSound) :
    (now.deed use).Orderly first.host.opened ∧
      Lives first files (fun stream => plain stream ++ [])
        (fun stream => caught stream ++ use.written stream) (now.deed use).after := by
  have active := underway.isActive
  have running {rest : Prop} {capture : Capture} (kept : capture = now.capture) {host : Host}
      (ended : Situation.isActive { capture, host } = false) : rest := by
    rw [Situation.isActive, kept] at ended
    rw [Situation.isActive, ended] at active
    cases active
  cases use with
  | start =>
      have deed : now.deed .start =
          { use := .start, before := now, outcome := .error .alreadyActive, after := now } := by
        have isActive : now.capture.isActive = true := active
        simp [Situation.deed, Use.perform, Capture.start, isActive]
      rw [deed]
      refine ⟨?_, underway.lives.unwritten⟩
      exact Deed.orderly_of_unchanged rfl (fun _ => ⟨active, rfl⟩) (by simp) (running rfl)
  | stop =>
      obtain ⟨idle, grown⟩ := underway.stop
      refine ⟨?_, idle.lives.unwritten⟩
      have after (stream : Stream) : (now.deed .stop).after.bytes stream =
          (now.capture.stop now.host).1.captured.get stream :=
        bytes_of_inactive idle.inactive stream _
      rcases underway with ⟨begun, proceeding, -⟩
      obtain ⟨-, -, -, -, -, later⟩ := begun.stops proceeding
      have unseen := proceeding.unseen
      exact Deed.orderly_of_stop rfl active idle.isActive
        (fun stream => after stream ▸ grown stream)
        idle.shows.files
        ⟨later.received.trans unseen.received.symm, later.files.trans unseen.files.symm⟩
  | read stream =>
      refine ⟨?_, underway.lives.unwritten⟩
      exact Deed.orderly_of_unchanged rfl (by simp) (by simp) (running rfl)
  | write stream bytes =>
      have written := underway.write stream bytes
      constructor
      · refine Deed.orderly_of_kept (by simp) (by simp) (by simp) rfl
          (Host.Utterances.collects (stream.write_utterances bytes now.host)) (running rfl) ?_
        rcases underway with ⟨-, proceeding, -⟩
        have unseen := proceeding.unseen
        have later := (proceeding.write stream bytes).unseen
        exact fun _ =>
          ⟨later.received.trans unseen.received.symm, later.files.trans unseen.files.symm⟩
      · simp only [List.append_nil]
        exact .inr written
  | readers round =>
      have ran := Host.readersRan_playRound now.host round
      refine ⟨?_, (underway.playRound sound).lives.unwritten⟩
      exact Deed.orderly_of_kept (by simp) (by simp) (by simp) rfl ran.collects (running rfl)
        fun _ => ⟨ran.received, ran.files⟩

theorem Lives.deed (lives : Lives first files plain caught now) (beginning : Beginning first files)
    {use : Use} (sound : use.IsSound) :
    (now.deed use).Orderly first.host.opened ∧
      Lives first files (fun stream => plain stream ++ (now.deed use).writtenWhile false stream)
        (fun stream => caught stream ++ (now.deed use).caught stream)
        (now.deed use).after := by
  have written (active : Bool) (stream : Stream) : (now.deed use).writtenWhile active stream =
      if now.isActive = active then use.written stream else [] := rfl
  simp only [Deed.caught, written]
  rcases lives with idle | underway
  · simpa [idle.isActive] using idle.deed beginning use
  · have unspilt (stream : Stream) : (now.deed use).spilt stream = [] :=
      if_neg fun ⟨_, inactive⟩ => by
        rw [show (now.deed use).before = now from rfl, underway.isActive] at inactive
        cases inactive
    simpa [unspilt, underway.isActive] using underway.deed sound

/-! ## Whole lives -/

theorem Lives.life (lives : Lives first files plain caught now) (beginning : Beginning first files)
    {uses : List Use} (sound : ∀ use ∈ uses, use.IsSound) :
    (∀ deed ∈ now.life uses, deed.Orderly first.host.opened) ∧
      Lives first files
        (fun stream => plain stream ++ (now.life uses).flatMap (Deed.writtenWhile false stream))
        (fun stream => caught stream ++ (now.life uses).flatMap (Deed.caught stream))
        (now.ending uses) := by
  induction uses generalizing now plain caught with
  | nil => exact ⟨List.forall_mem_nil _, lives.unwritten⟩
  | cons use rest ih =>
      obtain ⟨soundUse, soundRest⟩ := List.forall_mem_cons.mp sound
      obtain ⟨orderly, livesOn⟩ := lives.deed beginning soundUse
      obtain ⟨allOrderly, ends⟩ := ih livesOn soundRest
      refine ⟨List.forall_mem_cons.mpr ⟨orderly, allOrderly⟩, ?_⟩
      simpa only [Situation.life, Situation.ending, List.flatMap_cons, List.append_assoc] using ends

end

/-- A start that finds the capture inactive can flush standard output. -/
def Deed.Settled (deed : Deed) : Prop :=
  deed.use = .start → deed.before.isActive = false → deed.before.host.CanFlush

theorem Deed.caught_eq_writtenWhile {deed : Deed} {stream : Stream}
    (settled : stream = .stdout → deed.Settled) :
    deed.caught stream = deed.writtenWhile true stream := by
  have unspilt : deed.spilt stream = [] := by
    unfold spilt
    split
    · rename_i starting
      have flushed : deed.before.host.stage.unflushed stream = [] := by
        cases stream with
        | stdout => exact (settled rfl starting.1 starting.2).unflushed .stdout
        | stderr => rfl
      rw [flushed]
      split
      · rfl
      · rename_i error _
        exact error.spills_nil
    · rfl
  rw [caught, unspilt, List.nil_append]

/-- What a life comes to when it ends with a capture that is not active. -/
structure Conserved (first last : Situation) (deeds : List Deed) : Prop where
  /-- What was written while the capture was active has been captured, and besides it only what
  standard output held back at a start and could not flush. -/
  captured : ∀ stream, last.bytes stream =
    first.bytes stream ++ deeds.flatMap (Deed.caught stream)
  /-- If standard output could be flushed at each start, nothing else has been captured of it;
  of standard error there never is anything else. -/
  exact : ∀ stream, (stream = .stdout → ∀ deed ∈ deeds, deed.Settled) →
    last.bytes stream = first.bytes stream ++ deeds.flatMap (Deed.writtenWhile true stream)
  /-- All the rest has gone to the file that the stream refers to, but for what is still
  in the line buffer, if the file takes what is written. -/
  passed : ∀ (stream : Stream) file, first.host.opened stream.number = some file →
    first.host.opened.Takes stream.number →
      last.host.passedSince first.host stream.number file ++ last.host.heldBack stream =
        first.host.heldBack stream ++ deeds.flatMap (Deed.writtenWhile false stream)

/-- The life cycle of a capture, from every well-formed host whose streams are open:
whatever the uses are and whichever starts fail, each use is orderly, and in the end what was
written to each stream has been captured or has gone to its original target, in order and
depending on when it was written. -/
theorem lives_are_orderly {first : Situation} (inactive : first.isActive = false)
    (wellFormed : first.host.WellFormed)
    (isOpen : ∀ stream : Stream, first.host.opened stream.number ≠ none)
    (reads : first.host.NoReadFailures) {uses : List Use} (sound : ∀ use ∈ uses, use.IsSound) :
    (∀ deed ∈ first.life uses, deed.Orderly first.host.opened) ∧
      ((first.ending uses).isActive = false →
        Conserved first (first.ending uses) (first.life uses)) := by
  obtain ⟨files, clear⟩ := wellFormed.clear isOpen
  have given : first.capture.taps = none := by
    simpa [Situation.isActive, Capture.isActive] using inactive
  have beginning : Beginning first files := ⟨given, wellFormed, reads, clear.streams⟩
  obtain ⟨orderly, lives⟩ := beginning.idle.lives.life beginning sound
  refine ⟨orderly, fun ended => ?_⟩
  rcases lives with idle | underway
  · have captured (stream : Stream) : (first.ending uses).bytes stream =
        first.bytes stream ++ (first.life uses).flatMap (Deed.caught stream) := by
      rw [Situation.bytes, Situation.bytes, bytes_of_inactive idle.inactive,
        bytes_of_inactive given]
      exact idle.books.captured stream
    refine ⟨captured, fun stream settled => ?_, fun stream file found flowing => ?_⟩
    · rw [captured, List.flatMap_congr fun deed member =>
        Deed.caught_eq_writtenWhile fun isStdout => settled isStdout deed member]
    · rw [beginning.found stream] at found
      cases found
      apply (idle.books.accounts.arrives stream flowing).in_order
      rintro rfl
      rfl
  · rw [underway.isActive] at ended
    cases ended

/-- Half a line that is written before the start and that standard output cannot pass on is
captured, in front of what is written while the capture is active. -/
theorem unflushed_output_is_captured :
    let first : Situation := { capture := {}, host := .unread [] }
    let uses : List Use :=
      [.write .stdout (Bytes.ofText "half"), .start, .write .stdout (Bytes.ofText "x\n"), .stop]
    first.host.WellFormed ∧ (∀ stream : Stream, first.host.opened stream.number ≠ none) ∧
      first.host.NoReadFailures ∧ (first.ending uses).isActive = false ∧
      (first.life uses).flatMap (Deed.writtenWhile true .stdout) = Bytes.ofText "x\n" ∧
      (first.ending uses).bytes .stdout = Bytes.ofText "halfx\n" := by
  refine ⟨Host.wellFormed_unread [], ?_, ?_, by decide +kernel, by decide +kernel,
    by decide +kernel⟩
  · rintro (_ | _) <;> decide
  · simp [Host.NoReadFailures, Host.unread]

/-- A capture that is used twice, and also at the wrong time.  Each time half a line is
pending in the line buffer.  The start in between fails. -/
def restarted : List Use :=
  [.write .stdout (Bytes.ofText "first "), .stop, .start, .start,
    .write .stdout (Bytes.ofText "second\nthird"), .readers [(0, .read 4)], .read .stdout,
    .write .stderr (Bytes.ofText "warning"), .stop, .write .stdout (Bytes.ofText "line\nfourth "),
    .start, .write .stdout (Bytes.ofText "line"), .start, .write .stdout (Bytes.ofText " fifth"),
    .stop]

/-- Eight acquisitions are granted, and the fourth one after these is refused. -/
theorem lives_are_orderly_restarted :
    let refusals := List.replicate 11 none ++ [some (OsError.code 24)]
    let first : Situation := { capture := {}, host := { Host.start [] [] [] with refusals } }
    (first.life restarted).map Deed.outcome =
        [.ok (), .ok (), .ok (), .error .alreadyActive, .ok (), .ok (), .ok (), .ok (), .ok (),
          .ok (), .error (.redirect .stderr (.code 24)), .ok (), .ok (), .ok (), .ok ()] ∧
      Conserved first (first.ending restarted) (first.life restarted) ∧
      (first.ending restarted).capture.captured =
        { stdout := Bytes.ofText "second\nthird fifth", stderr := Bytes.ofText "warning" } ∧
      (first.ending restarted).host.received =
        { stdout := Bytes.ofText "first line\nfourth line", stderr := [] } := by
  intro refusals first
  have fresh := Host.wellFormed_start [] [] []
  have wellFormed : first.host.WellFormed :=
    ⟨fresh.readers, fresh.writers, fresh.threads, fresh.sources⟩
  have isOpen (stream : Stream) : first.host.opened stream.number ≠ none := by
    cases stream <;> exact nofun
  have sound : ∀ use ∈ restarted, use.IsSound := by simp [restarted, Use.IsSound]
  have ends : (first.ending restarted).isActive = false := by decide +kernel
  refine ⟨by decide +kernel, ?_, by decide +kernel, by decide +kernel⟩
  exact (lives_are_orderly rfl wellFormed isOpen nofun sound).2 ends

end Capture

end CompileDriver
