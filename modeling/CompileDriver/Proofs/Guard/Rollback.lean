import CompileDriver.Proofs.Guard.Account
import CompileDriver.Proofs.Guard.StartSteps
import CompileDriver.Proofs.Host.Fallow
import CompileDriver.Proofs.Host.WellFormed

/-!
# Captures that cannot be started

Whichever step of starting a capture fails, everything that was acquired before is given
back: the numbers refer to what they referred to, no thread is added, and the capture is
inactive and holds what it held.  Only a line that standard output refuses is added when the
second reader cannot be started, since the first one gets it.

Standard streams may be closed.  Their numbers are then taken by ends of the new pipes,
which are saved and restored like any other file.  The number that the first reader reads
from can thus be pointed elsewhere while it runs, but never at a pipe that anybody has
written to, so that the reader has nothing to hand out when the second one cannot be
started.
-/

namespace CompileDriver

open Function (update)

namespace Stream

/-- Whether writing out works is a matter of the descriptor alone. -/
theorem writeOut_value (stream : Stream) (bytes : Bytes) (host : Host) :
    (stream.writeOut bytes host).1 = host.table.accepts stream.number := by
  simp only [writeOut, Action.bind_apply, DescriptorTable.accepts]
  cases found : host.table.file? stream.number with
  | none =>
      rw [SystemCall.write_closed found]
      rfl
  | some file =>
      rw [SystemCall.write_open found]
      cases file with
      | pipeWriter pipe =>
          dsimp only
          cases readable : host.table.refersTo (.pipeReader pipe) with
          | true =>
              simp only [Host.deliver, readable, if_true]
              rfl
          | false =>
              simp only [Host.deliver, readable]
              rfl
      | _ => rfl

end Stream

/-- The capture holds what it held before it was started. -/
def Capture.Keeps (before : Capture) (reached : Except CaptureError Unit × Capture) (_ : Host) :
    Prop :=
  ∀ stream, reached.2.captured.get stream = before.captured.get stream

namespace Ensures

variable {bound : Nat} {running : List (Nat × Nat)} {held : Bytes} {files : OpenFiles}
  {threads : List (Nat × Nat)}

/-! ## Starting on fallow pipes -/

/-- A call that acquires something keeps pipes fallow when its change does. -/
theorem acquire_fallow {α : Type} {call : Host → Except OsError (α × Host)}
    (sound : ∀ host value next, Host.Fallow bound running held host →
      call host = .ok (value, next) → Host.Fallow bound running held next) :
    Ensures (Host.Fallow bound running held) (SystemCall.acquire call) fun _ =>
      Host.Fallow bound running held := by
  have acquired : Ensures (Host.Fallow bound running held) (SystemCall.acquire call)
      (Outcome (Host.Fallow bound running held) fun _ => Host.Fallow bound running held) :=
    acquire_outcome (fun _ refusals fallow => fallow.refused refusals)
      (fun _ fallow => fallow.endCall) (fun _ _ fallow => fallow.endCall) sound
  refine acquired.weaken ?_
  rintro (error | value) host fallow
  · exact fallow
  · exact fallow

theorem pipe_fallow :
    Ensures (Host.Fallow bound [] held) SystemCall.pipe fun _ => Host.Fallow bound [] held := by
  refine acquire_fallow fun host ends next fallow done => ?_
  obtain ⟨-, rfl⟩ := Host.makePipe_ok done
  have retabled : Host.Fallow bound [] held
      { host with table := host.table.withPipe host.pipes.length } := fallow.retable (by simp)
  exact retabled.addPipe

theorem duplicate_fallow (number : Nat) :
    Ensures (Host.Fallow bound [] held) (SystemCall.duplicate number) fun _ =>
      Host.Fallow bound [] held := by
  refine acquire_fallow fun host copy next fallow done => ?_
  obtain ⟨-, -, -, rfl⟩ := Host.duplicate_ok done
  exact fallow.retable (by simp)

theorem redirect_fallow (source target : Nat) :
    Ensures (Host.Fallow bound [] held) (SystemCall.redirect source target) fun _ =>
      Host.Fallow bound [] held := by
  refine acquire_fallow fun host value next fallow done => ?_
  obtain ⟨-, rfl⟩ := Host.redirect_ok done
  exact fallow.retable (by simp)

/-- A flush of standard output that takes what is held back leaves the line buffer empty,
and gets nothing into the fallow pipes unless the stream is the writing end of one. -/
theorem flush_fallow {host : Host} (fallow : Host.Fallow bound [] held host)
    (old : ∀ pipe, host.opened Stream.stdout.number = some (.pipeWriter pipe) → pipe < bound)
    (takes : held = [] ∨ host.table.accepts Stream.stdout.number = true) :
    Host.Fallow bound [] [] (Stream.stdout.flush host).2 := by
  by_cases empty : host.lineBuffer = []
  · rw [Stream.flush_at_rest .stdout empty]
    rw [← empty, fallow.lineBuffer]
    exact fallow
  · have accepts : host.table.accepts Stream.stdout.number = true :=
      takes.resolve_left fun nothing => empty (fallow.lineBuffer.trans nothing)
    have written : Host.Fallow bound [] held (Stream.stdout.writeOut host.lineBuffer host).2 := by
      rw [Stream.writeOut_host]
      cases found : host.table.file? Stream.stdout.number with
      | none =>
          rw [SystemCall.write_closed found]
          exact fallow.takeTurn
      | some file =>
          rw [SystemCall.write_open found]
          have isOld (pipe : Nat) (same : file = .pipeWriter pipe) : pipe < bound :=
            old pipe (same ▸ found)
          have delivered := fallow.deliver isOld host.lineBuffer
          split
          · exact delivered.note _
          · exact delivered
    have worked : Stream.stdout.writeOut host.lineBuffer host =
        (true, (Stream.stdout.writeOut host.lineBuffer host).2) :=
      Prod.ext ((Stream.writeOut_value _ _ host).trans accepts) rfl
    rw [Stream.flush_written empty worked]
    exact ⟨rfl, written.queues, written.threads, written.idle, written.sources⟩

theorem startTap_fallow (tap : Tap) (nonblocking : Bool)
    (new : ∀ pipe, files tap.source = some (.pipeReader pipe) → bound ≤ pipe) :
    Ensures (fun host => host.opened = files ∧ Host.Fallow bound [] held host)
      (Capture.startTap tap nonblocking)
      (Outcome (fun host => host.opened = files ∧ Host.Fallow bound [] held host) fun thread host =>
        Host.Fallow bound [(thread, tap.source)] held host) := by
  apply startTap_outcome
  · exact fun _ refusals ⟨same, fallow⟩ => ⟨same, fallow.refused refusals⟩
  · exact fun host ⟨same, fallow⟩ => ⟨(Host.still_endCall host).1.trans same, fallow.endCall⟩
  · exact fun _ _ fallow => fallow.endCall
  · exact fun host thread next ⟨same, fallow⟩ done => fallow.startReader done (same ▸ new)

theorem save_fallow (stream : Stream) {host : Host}
    (flushed : Host.Fallow bound [] held (stream.flush host).2) :
    Host.Fallow bound [] held (Scope.save stream host).2 := by
  have duplicated : Host.Fallow bound [] held
      (SystemCall.duplicate stream.number (stream.flush host).2).2 :=
    duplicate_fallow stream.number _ flushed
  rw [Scope.save, Action.bind_apply, Action.bind_apply]
  cases (SystemCall.duplicate stream.number (stream.flush host).2).1 <;> exact duplicated

/-- Redirecting both streams leaves the line buffer empty and the pipes fallow, if it
succeeds. -/
theorem redirectBoth_fallow {host : Host} (fallow : Host.Fallow bound [] held host)
    (old : ∀ pipe, host.opened Stream.stdout.number = some (.pipeWriter pipe) → pipe < bound)
    (takes : held = [] ∨ host.table.accepts Stream.stdout.number = true)
    (writers : PerStream Nat) :
    OnSuccess (fun _ => Host.Fallow bound [] []) (Capture.redirectBoth writers host).1
      (Capture.redirectBoth writers host).2 := by
  have saved := save_fallow .stdout (flush_fallow fallow old takes)
  rw [Capture.redirectBoth, Action.bind_apply]
  cases (Scope.save .stdout host).1 with
  | error error => trivial
  | ok stdout =>
      have savesStderr : Ensures (Host.Fallow bound [] []) (Scope.save .stderr) fun _ =>
          Host.Fallow bound [] [] := fun _ fallow => save_fallow .stderr fallow
      refine savesStderr.bind (fun second => ?_) _ saved
      cases second with
      | error error => exact fun _ _ => trivial
      | ok stderr =>
          refine (redirect_fallow _ _).bind fun first => ?_
          cases first with
          | error error => exact fun _ _ => trivial
          | ok done =>
              refine (redirect_fallow _ _).bind fun second => ?_
              cases second with
              | error error => exact fun _ _ => trivial
              | ok done => exact fun _ fallow => fallow

/-! ## Stopping on fallow pipes -/

theorem close_fallow (number : Nat) :
    Ensures (Host.Fallow bound running held) (SystemCall.close number) fun _ =>
      Host.Fallow bound running held := by
  intro host fallow
  refine Host.Fallow.endCall (fallow.retable fun identity member pipe found => ?_)
  rw [DescriptorTable.file?_close] at found
  split at found
  · cases found
  · exact fallow.sources identity member pipe found

/-- Giving back a file that is the reading end of no earlier pipe. -/
theorem giveBack_fallow {copy target : Nat} {file : OpenFile} (saved : files copy = some file)
    (new : ∀ identity ∈ running, identity.2 = target → ∀ pipe, file = .pipeReader pipe →
      bound ≤ pipe) :
    Ensures (fun host => host.opened = files ∧ Host.Fallow bound running held host)
      (SystemCall.giveBack copy target) fun _ => Host.Fallow bound running held := by
  rintro host ⟨rfl, fallow⟩
  rw [SystemCall.giveBack_saved saved]
  refine Host.Fallow.endCall (fallow.retable fun identity member pipe found => ?_)
  rw [host.table.file?_pointTo_eq saved, Function.update_apply] at found
  split at found
  · rename_i same
    exact new identity member same pipe (Option.some.inj found)
  · exact fallow.sources identity member pipe found

theorem restore_fallow (stream : Stream) {copy : Nat} {file : OpenFile}
    (saved : files copy = some file)
    (new : ∀ identity ∈ running, identity.2 = stream.number → ∀ pipe, file = .pipeReader pipe →
      bound ≤ pipe) :
    Ensures (fun host => host.Shows files threads ∧ Host.Fallow bound running [] host)
      (Scope.restore { stream, saved := some copy }) fun _ host =>
        host.Shows (update (update files stream.number (some file)) copy none) threads ∧
          Host.Fallow bound running [] host := by
  rintro host ⟨shows, fallow⟩
  refine ⟨restore stream saved host shows, ?_⟩
  have given : Ensures (fun host => host.opened = files ∧ Host.Fallow bound running [] host)
      (do discard (SystemCall.giveBack copy stream.number)
          SystemCall.close copy
          return ({ stream, saved := none } : Scope))
      fun _ => Host.Fallow bound running [] :=
    (giveBack_fallow saved new).discarded.bind fun _ =>
      (close_fallow copy).bind fun _ => .value fun _ fallow => fallow
  have unflushed : Host.Fallow bound running []
      ((stream.flush >>= fun _ => do
        discard (SystemCall.giveBack copy stream.number)
        SystemCall.close copy
        return ({ stream, saved := none } : Scope)) host).2 := by
    rw [Action.bind_apply, stream.flush_at_rest fallow.lineBuffer]
    exact given host ⟨shows.files, fallow⟩
  exact unflushed

/-- A reader of fallow pipes has nothing to hand out. -/
theorem joinTap_fallow (tap : Tap)
    (isRunning : ∀ thread, tap.thread = some thread → ∃ source, (thread, source) ∈ running) :
    Ensures (Host.Fallow bound running held) (Capture.joinTap tap) fun read _ => read.1 = [] := by
  unfold Capture.joinTap
  cases started : tap.thread with
  | none => exact .value fun _ _ => rfl
  | some thread =>
      obtain ⟨source, member⟩ := isRunning thread started
      have joined : Ensures (Host.Fallow bound running held) (SystemCall.joinReader thread)
          fun read _ => ∀ reader, read = some reader → reader.collected = [] := by
        intro host fallow reader found
        exact ((fallow.await _).idle _ member reader found).2
      refine joined.bind fun read => ?_
      cases read with
      | none => exact .value fun _ _ => rfl
      | some reader =>
          intro host nothing
          have empty := nothing reader rfl
          cases ended : reader.status <;> simp [ended, empty]

/-- Stopping hands out nothing on fallow pipes, when only the first reader was started.
The copies of the saved files may be put back under the number that it reads from. -/
theorem stop_fallow (capture : Capture) {wiring : Wiring} {thread : Nat} (apart : wiring.Apart)
    {saved : PerStream OpenFile}
    (kept : ∀ stream, files (wiring.copies.get stream) = some (saved.get stream))
    (new : ∀ stream : Stream, wiring.sources.stdout = stream.number → ∀ pipe,
      saved.get stream = .pipeReader pipe → bound ≤ pipe) :
    Ensures
      (fun host => host.Shows files threads ∧
        Host.Fallow bound [(thread, wiring.sources.stdout)] [] host)
      ({ capture with
          taps := some (wiring.taps { stdout := some thread, stderr := none }) } : Capture).stop
      fun stopped _ => ∀ stream, stopped.captured.get stream = capture.captured.get stream := by
  let running := [(thread, wiring.sources.stdout)]
  have asked (tap : Tap) (files : OpenFiles) : Ensures
      (fun host => host.Shows files threads ∧ Host.Fallow bound running [] host)
      (Capture.askToStop tap) fun _ host =>
        host.Shows files threads ∧ Host.Fallow bound running [] host := by
    refine (askToStop tap).both fun host fallow => ?_
    rw [Capture.askToStop]
    cases tap.thread with
    | none => exact fallow
    | some thread => exact fallow.askToStop thread
  have stillKept : update (update files Stream.stdout.number (some saved.stdout))
      wiring.copies.stdout none wiring.copies.stderr = some saved.stderr := by
    have different : wiring.copies.stderr ≠ Stream.stdout.number := apart.streams .stderr .stdout
    rw [Function.update_of_ne apart.copies.symm, Function.update_of_ne different]
    exact kept .stderr
  have restored (stream : Stream) : ∀ identity ∈ running, identity.2 = stream.number → ∀ pipe,
      saved.get stream = .pipeReader pipe → bound ≤ pipe := by
    intro identity member same
    obtain rfl := List.mem_singleton.mp member
    exact new stream same
  unfold Capture.stop
  refine (asked _ files).bind fun _ => (asked _ files).bind fun _ => ?_
  refine (restore_fallow .stdout (kept .stdout) (restored .stdout)).discarded.bind fun _ => ?_
  refine (restore_fallow .stderr stillKept (restored .stderr)).discarded.bind fun _ => ?_
  have closed (files : OpenFiles) (number : Nat) : Ensures
      (fun host => host.Shows files threads ∧ Host.Fallow bound running [] host)
      (SystemCall.close number) fun _ => Host.Fallow bound running [] :=
    fun host both => close_fallow number host both.2
  refine (closed _ _).bind fun _ => (close_fallow _).bind fun _ => ?_
  let tap := (wiring.taps { stdout := some thread, stderr := none }).stdout
  have isRunning : ∀ other, tap.thread = some other → ∃ source, (other, source) ∈ running := by
    rintro _ ⟨⟩
    exact ⟨_, List.mem_singleton_self _⟩
  refine (joinTap_fallow tap isRunning).bind ?_
  rintro ⟨stdout, stdoutEnd⟩ host nothing
  obtain rfl : stdout = [] := nothing
  rintro (_ | _) <;> exact List.append_nil _

/-! ## Starting -/

/-- Starting the readers adds nothing to what a capture holds, also when the second one
cannot be started. -/
theorem startReaders_held (capture : Capture) {wiring : Wiring} (apart : wiring.Apart)
    {saved : PerStream OpenFile}
    (kept : ∀ stream, files (wiring.copies.get stream) = some (saved.get stream))
    (new : ∀ stream : Stream, wiring.sources.stdout = stream.number → ∀ pipe,
      saved.get stream = .pipeReader pipe → bound ≤ pipe)
    (source : ∀ pipe, files wiring.sources.stdout = some (.pipeReader pipe) → bound ≤ pipe) :
    Ensures (fun host => host.Shows files threads ∧ Host.Fallow bound [] [] host)
      (capture.startReaders (wiring.taps { stdout := none, stderr := none })) capture.Keeps := by
  let taps := wiring.taps { stdout := none, stderr := none }
  let going (first : Nat) (host : Host) : Prop :=
    host.Shows files ((first, wiring.sources.stdout) :: threads) ∧
      Host.Fallow bound [(first, wiring.sources.stdout)] [] host
  have first : Ensures (fun host => host.Shows files threads ∧ Host.Fallow bound [] [] host)
      (Capture.startTap taps.stdout capture.nonblocking) (OnSuccess going) := by
    rintro host ⟨shows, fallow⟩
    have shown := startTap taps.stdout capture.nonblocking host shows
    have tapped := startTap_fallow taps.stdout capture.nonblocking source host
      ⟨shows.files, fallow⟩
    revert shown tapped
    cases (Capture.startTap taps.stdout capture.nonblocking host).1 with
    | error error => exact fun _ _ => trivial
    | ok first => exact fun shown tapped => ⟨shown, tapped⟩
  have second (first : Nat) : Ensures (going first)
      (Capture.startTap taps.stderr capture.nonblocking)
      (Outcome (going first) fun _ _ => True) := by
    rintro host ⟨shows, fallow⟩
    have shown := startTap taps.stderr capture.nonblocking host shows
    have tapped := startTap_outcome taps.stderr capture.nonblocking
      (fun _ refusals fallow => fallow.refused refusals) (fun _ fallow => fallow.endCall)
      (fun _ _ _ => trivial) (fun _ _ _ _ _ => (trivial : (fun _ _ => True) _ _)) host fallow
    revert shown tapped
    cases (Capture.startTap taps.stderr capture.nonblocking host).1 with
    | error error => exact fun shown tapped => ⟨shown, tapped⟩
    | ok second => exact fun _ _ => trivial
  refine first.bind fun outcome => ?_
  cases outcome with
  | error error => rintro host - (_ | _) <;> exact List.append_nil _
  | ok first =>
      refine (second first).bind fun outcome => ?_
      cases outcome with
      | error error => exact stop_fallow capture apart kept new
      | ok second => exact fun _ _ _ => rfl

end Ensures

/-- With an input the new pipes take the number of standard output for the reading end of a
pipe at most. -/
theorem Wiring.Piped.stdout_writer {sources writers : PerStream Nat}
    {starts ends : PerStream OpenFile} {before after : OpenFiles}
    (piped : Piped sources writers starts ends before after)
    (above : ∀ stream, Stream.stdout.number < writers.get stream)
    (readers : ∀ stream pipe, starts.get stream ≠ .pipeWriter pipe) {pipe : Nat}
    (found : after Stream.stdout.number = some (.pipeWriter pipe)) :
    before Stream.stdout.number = some (.pipeWriter pipe) := by
  rw [← found]
  refine (piped.others _ (fun stream same => ?_) fun stream same => ?_).symm
  · rw [same, piped.reading stream] at found
    exact readers stream pipe (Option.some.inj found)
  · exact Nat.ne_of_lt (above stream) same

/-- With an input the writing ends of the new pipes are above standard output. -/
theorem Wiring.writers_above {files : OpenFiles} (input : files 0 ≠ none)
    {stdoutPipe stderrPipe : Nat × Nat} (stdoutNew : NewPipe files stdoutPipe)
    {stdoutReader stdoutWriter : OpenFile}
    (stderrNew : NewPipe (files.withPipe stdoutPipe stdoutReader stdoutWriter) stderrPipe)
    (stream : Stream) : Stream.stdout.number <
      (⟨stdoutPipe.2, stderrPipe.2⟩ : PerStream Nat).get stream := by
  have one (ends : Nat × Nat) {now : OpenFiles} (new : NewPipe now ends) (used : now 0 ≠ none) :
      1 < ends.2 := by
    have notInput : ends.1 ≠ 0 := by
      intro same
      exact used (same ▸ new.readerFree)
    have larger := new.larger
    omega
  cases stream with
  | stdout => exact one _ stdoutNew input
  | stderr =>
      apply one _ stderrNew
      simp only [OpenFiles.withPipe, Function.update_apply]
      split
      · simp
      · split
        · simp
        · exact input

/-- Once there are the pipes, both streams are saved and redirected, and the line buffer is
empty. -/
theorem Ensures.redirectBoth_both {bound : Nat} {held : Bytes} {before piped : OpenFiles}
    {sources writers : PerStream Nat} {names : PerStream Nat}
    (piping : Wiring.Piped sources writers (names.map .pipeReader) (names.map .pipeWriter) before
      piped)
    (above : ∀ stream, Stream.stdout.number < writers.get stream)
    (old : ∀ pipe, before Stream.stdout.number = some (.pipeWriter pipe) → pipe < bound)
    (takes : held = [] ∨ ∀ pipe, before Stream.stdout.number = some (.pipeWriter pipe) →
      ∃ other, before other = some (.pipeReader pipe)) (threads : List (Nat × Nat)) :
    Ensures (fun host => host.Shows piped threads ∧ Host.Fallow bound [] held host)
      (Capture.redirectBoth writers)
      (OnSuccess fun scopes host => ∃ copies saved,
        scopes =
          { stdout := { stream := .stdout, saved := some copies.stdout }
            stderr := { stream := .stderr, saved := some copies.stderr } } ∧
          Saves piped copies saved ∧
          host.Shows (Saves.diverted piped copies saved (names.map .pipeWriter)) threads ∧
          Host.Fallow bound [] [] host) := by
  rintro host ⟨shows, fallow⟩
  have wrote (pipe : Nat) (found : host.opened Stream.stdout.number = some (.pipeWriter pipe)) :
      before Stream.stdout.number = some (.pipeWriter pipe) := by
    rw [shows.files] at found
    exact piping.stdout_writer above
      (by rintro (_ | _) pipe <;> simp [PerStream.get, PerStream.map])
      found
  have stillTakes : held = [] ∨ host.table.accepts Stream.stdout.number = true := by
    refine takes.imp_right fun takes => (DescriptorTable.accepts_iff _ _).mpr fun pipe found => ?_
    obtain ⟨reader, isReader⟩ := takes pipe (wrote pipe found)
    have sameFile : host.opened reader = before reader := by
      rw [shows.files, piping.kept (by simp [isReader])]
    exact ⟨reader, sameFile.trans isReader⟩
  have shown := redirectBoth piping.writing piping.apart piping.streams host shows
  have fallowed := redirectBoth_fallow fallow (fun pipe found => old pipe (wrote pipe found))
    stillTakes writers
  revert shown fallowed
  cases (Capture.redirectBoth writers host).1 with
  | error error => exact fun _ _ => trivial
  | ok scopes =>
      rintro ⟨copies, saved, same, saves, shows⟩ fallow
      exact ⟨copies, saved, same, saves, shows, fallow⟩

/-- The first reader reads from the pipe of standard output, also when that has taken the
number of a stream and is saved as what the stream referred to. -/
theorem Ensures.startReaders_saved {bound : Nat} {before piped : OpenFiles}
    {sources writers copies : PerStream Nat} {names : PerStream Nat}
    {saved : PerStream OpenFile}
    (piping : Wiring.Piped sources writers (names.map .pipeReader) (names.map .pipeWriter) before
      piped)
    (saves : Saves piped copies saved) (new : bound ≤ names.stdout) {threads : List (Nat × Nat)}
    (capture : Capture) :
    let wiring : Wiring := { sources, writers, copies }
    Ensures
      (fun host =>
        host.Shows (Saves.diverted piped copies saved (names.map .pipeWriter)) threads ∧
          Host.Fallow bound [] [] host)
      (capture.startReaders (wiring.taps { stdout := none, stderr := none })) capture.Keeps := by
  intro wiring
  have connects : wiring.Connects before
      (Saves.diverted piped copies saved (names.map .pipeWriter)) :=
    Wiring.connects_of_saves piping saves
  have differs : Saves.Differs piped copies saved
      (Saves.diverted piped copies saved (names.map .pipeWriter)) :=
    (saves.differs_copied.update saves .stdout _).update saves .stderr _
  have reading : piped sources.stdout = some (.pipeReader names.stdout) := piping.reading .stdout
  refine startReaders_held capture connects.apart differs.kept ?_ ?_
  · intro stream same pipe isSaved
    have found := saves.found stream
    rw [← show sources.stdout = stream.number from same, reading, isSaved] at found
    cases found
    exact new
  · intro pipe found
    simp only [Saves.diverted, Function.update_apply,
      saves.copied_of_open (show piped wiring.sources.stdout ≠ none by simp [wiring, reading])]
      at found
    split at found
    · cases found
    · split at found
      · cases found
      · rw [reading] at found
        cases found
        exact new

/-- Starting a capture adds nothing to what it holds, if what standard output holds back
reaches its target. -/
theorem Capture.start_held {capture : Capture} (inactive : capture.taps = none) {host : Host}
    (wellFormed : host.WellFormed) (input : host.opened 0 ≠ none)
    (flushes : host.CanFlush) :
    capture.Keeps (capture.start host).1 (capture.start host).2 := by
  let bound := host.pipes.length
  have fallow : Host.Fallow bound [] host.lineBuffer host :=
    { lineBuffer := rfl
      queues := fun pipe new => by
        simp [Host.queue, List.getD_eq_getElem?_getD, List.getElem?_eq_none new]
      threads := wellFormed.threads
      idle := by simp
      sources := by simp }
  have shows : host.Shows host.opened host.threads := ⟨rfl, List.Subset.refl _⟩
  have idle : capture.isActive = false := by simp [isActive, inactive]
  have started : Ensures
      (fun now => (bound ≤ now.pipes.length ∧ now.Shows host.opened host.threads) ∧
        Host.Fallow bound [] host.lineBuffer now)
      capture.start capture.Keeps := by
    unfold start
    rw [idle]
    refine ((Ensures.pipe bound).both Ensures.pipe_fallow).bind fun first => ?_
    cases first with
    | error error => exact fun _ _ _ => rfl
    | ok stdoutPipe =>
        rintro now ⟨⟨stdoutNew, stdoutName, stdoutLater, stdoutKnown, shows⟩, fallow⟩
        refine ((Ensures.pipe (stdoutName + 1)).both Ensures.pipe_fallow).bind (fun second => ?_)
          now ⟨⟨stdoutKnown, shows⟩, fallow⟩
        cases second with
        | error error => exact fun _ _ _ => rfl
        | ok stderrPipe =>
            rintro now ⟨⟨stderrNew, stderrName, later, -, shows⟩, fallow⟩
            let names : PerStream Nat := { stdout := stdoutName, stderr := stderrName }
            have piping : Wiring.Piped _ _ (names.map .pipeReader) (names.map .pipeWriter) _ _ :=
              Wiring.twoPipes stdoutNew (.pipeReader stdoutName) (.pipeWriter stdoutName) stderrNew
                (.pipeReader stderrName) (.pipeWriter stderrName)
            have both := Ensures.redirectBoth_both piping
              (Wiring.writers_above input stdoutNew stderrNew)
              (fun pipe => wellFormed.writers _ pipe)
              (Or.imp_right (DescriptorTable.accepts_iff _ _).mp flushes)
              host.threads
            refine both.bind (fun redirected => ?_) now ⟨shows, fallow⟩
            cases redirected with
            | error error => exact fun _ _ _ => rfl
            | ok scopes =>
                rintro last ⟨copies, saved, rfl, saves, shows, fallow⟩
                exact Ensures.startReaders_saved piping saves stdoutLater capture last
                  ⟨shows, fallow⟩
  exact started host ⟨⟨Nat.le_refl _, shows⟩, fallow⟩

namespace Capture

/-- A start that fails adds nothing to what a capture holds of standard error, and nothing at
all unless it is the reader of standard error that cannot be started. -/
theorem failed_start_held (capture : Capture) (stream : Stream) :
    Ensures (fun _ => True) capture.start fun outcome _ => ∀ error, outcome.1 = .error error →
      (stream = .stdout → ∀ cause, error ≠ .reader .stderr cause) →
        outcome.2.captured.get stream = capture.captured.get stream := by
  refine capture.start_leads (fun _ _ _ _ => rfl) ?_ (by simp)
  rintro taps named cause noStderr noStdout
  cases stream with
  | stderr =>
      refine (capture.stop_unread (show (taps.get .stderr).thread = none from noStderr)).weaken ?_
      exact fun _ _ kept _ _ _ => kept
  | stdout =>
      cases named with
      | stdout =>
          refine (capture.stop_unread
            (show (taps.get .stdout).thread = none from noStdout rfl)).weaken ?_
          exact fun _ _ kept _ _ _ => kept
      | stderr =>
          rintro host - _ ⟨⟩ other
          exact absurd rfl (other rfl cause)

/-- Starting a capture is all or nothing.  From every well-formed host with an input,
whether the standard streams are open or closed, when the start of a capture fails every
number refers to what it referred to, the capture is inactive, no thread is left that was
not there before, and the error is the report of the first step that failed.  The capture
holds what it held, unless the reader of standard error cannot be started and standard output
is a pipe that nobody can read any more and refuses an unfinished line. -/
theorem failed_start_changes_nothing (capture : Capture) (inactive : capture.isActive = false)
    {host : Host} (wellFormed : host.WellFormed) (input : host.opened 0 ≠ none)
    {error : CaptureError} (failed : (capture.start host).1.1 = .error error) :
    let after := (capture.start host).1.2
    let reached := (capture.start host).2
    (∀ number, reached.opened number = host.opened number) ∧
      after.isActive = false ∧
      reached.threads ⊆ host.threads ∧
      (∃ step cause, (capture.failingStep host).1 = some (step, cause) ∧
        error = step.report cause) ∧
      ∀ stream,
        (stream = .stdout → (∃ cause, error = .reader .stderr cause) → host.CanFlush) →
          after.captured.get stream = capture.captured.get stream := by
  intro after reached
  have given : capture.taps = none := by simpa [isActive] using inactive
  have started : Ensures.Started host.opened host.threads (capture.start host).1
      (capture.start host).2 := Ensures.start given host ⟨rfl, List.Subset.refl _⟩
  have ends := start_ends given host
  rw [failed] at ends
  have undone : after.taps = none ∧ reached.Shows host.opened host.threads := by
    revert started failed
    simp only [after, reached]
    rcases (capture.start host).1 with ⟨_ | _, left⟩
    · exact fun _ started => started
    · rintro ⟨⟩
  refine ⟨fun number => congrFun undone.2.files number, by simp [isActive, undone.1],
    undone.2.threads, ?_, fun stream flushes => ?_⟩
  · cases failing : (capture.failingStep host).1 with
    | none =>
        rw [failing] at ends
        cases ends
    | some failure =>
        rw [failing] at ends
        exact ⟨failure.1, failure.2, rfl, Except.error.inj ends⟩
  · by_cases spills : stream = .stdout ∧ ∃ cause, error = .reader .stderr cause
    · exact start_held given wellFormed input (flushes spills.1 spills.2) stream
    · exact capture.failed_start_held stream host trivial error failed
        fun isStdout cause isReader => spills ⟨isStdout, cause, isReader⟩

/-- When the second reader cannot be started, the capture gets half a line that was written
before and that standard output refuses. -/
theorem failed_start_captures_unflushed_output :
    let capture : Capture := {}
    let host : Host := { Host.unread (Bytes.ofText "half") with threadSupply := some 1 }
    host.WellFormed ∧ host.opened 0 ≠ none ∧ capture.isActive = false ∧
      (capture.start host).1.1 = .error (.reader .stderr .unavailable) ∧
      capture.captured.stdout = [] ∧
      (capture.start host).1.2.captured.stdout = Bytes.ofText "half" := by
  intro capture host
  have unread := Host.wellFormed_unread (Bytes.ofText "half")
  have wellFormed : host.WellFormed :=
    ⟨unread.readers, unread.writers, unread.threads, unread.sources⟩
  exact ⟨wellFormed, by decide, rfl, by decide +kernel, rfl, by decide +kernel⟩

/-- A polling capture whose second reader cannot be started, while standard output is closed
and holds back an unfinished line. -/
theorem failed_start_changes_nothing_half_open :
    let capture : Capture :=
      { captured := { stdout := Bytes.ofText "kept\n", stderr := Bytes.ofText "also kept" }
        nonblocking := true }
    let host : Host :=
      { table := DescriptorTable.standard.close 1
        threadSupply := some 1
        lineBuffer := Bytes.ofText "unfinished" }
    let after := (capture.start host).1.2
    let reached := (capture.start host).2
    (capture.start host).1.1 = .error (.reader .stderr .unavailable) ∧
      reached.opened 1 = none ∧ (∀ number, reached.opened number = host.opened number) ∧
      after.isActive = false ∧ reached.threads = [] ∧
      ∀ stream, after.captured.get stream = capture.captured.get stream := by
  intro capture host after reached
  have standard : ({ host with table := .standard } : Host).WellFormed := .of_standard rfl rfl
  have wellFormed : host.WellFormed := standard.close (by simp [host])
  have failed : (capture.start host).1.1 = .error (.reader .stderr .unavailable) := by
    decide +kernel
  have inactive : capture.isActive = false := by decide
  have input : host.opened 0 ≠ none := by decide
  have closed : host.opened 1 = none := by decide
  have flushes : host.CanFlush := .inr (by decide)
  obtain ⟨opened, idle, threads, -, held⟩ :=
    failed_start_changes_nothing capture inactive wellFormed input failed
  have noneLeft : reached.threads = [] := List.subset_nil.mp threads
  exact ⟨failed, (opened 1).trans closed, opened, idle, noneLeft, fun stream =>
    held stream fun _ _ => flushes⟩

end Capture

end CompileDriver
