import CompileDriver.Proofs.Guard.Draining
import CompileDriver.Proofs.Host.Mute

/-!
# What captures do to the ledger

Starting a capture passes on what the process holds back, also when it fails later
on; apart from that it delivers nothing.  While a capture is active hosts are a sink
whose bytes are kept for the capture, and the original targets get nothing.  Stopping
hands out exactly what was written to the streams in between.
-/

namespace CompileDriver

/-! ## Inactive captures -/

namespace Host

/-- Of the pieces that were written since `base`, when the process held back `held`, to the
streams that flow, all have reached `files`, but for what is still held back. -/
structure Accounts (flows : Stream → Prop) (base : Host) (files : PerStream OpenFile)
    (held : Stream → Bytes) (pieces : Stream → List Piece) (host : Host) : Prop where
  grown : base.journal <:+ host.journal
  arrives : ∀ stream : Stream, flows stream → stream.Arrives (held stream) (pieces stream)
    (host.passedSince base stream.number (files.get stream)) (host.heldBack stream)

namespace Accounts

variable {flows : Stream → Prop} {base host : Host} {files : PerStream OpenFile}
  {held : Stream → Bytes} {pieces : Stream → List Piece}

/-- At first the process has written nothing. -/
theorem initially (flows : Stream → Prop) (base : Host) (files : PerStream OpenFile) :
    Accounts flows base files base.heldBack (fun _ => [⟨.process, []⟩]) base where
  grown := List.suffix_refl _
  arrives stream _ := by
    rw [passedSince_self]
    exact .unwritten base stream

/-- Later on the same is true when nothing has passed in between, and what the process
holds back is the same. -/
theorem later {after : Host} (accounts : Accounts flows base files held pieces host)
    (grown : host.journal <:+ after.journal)
    (passed : ∀ stream : Stream, flows stream →
      after.passedSince host stream.number (files.get stream) = [])
    (heldBack : ∀ stream, flows stream → after.heldBack stream = host.heldBack stream) :
    Accounts flows base files held pieces after where
  grown := accounts.grown.trans grown
  arrives stream flowing := by
    rw [passedSince_trans accounts.grown grown, passed stream flowing, List.append_nil,
      heldBack stream flowing]
    exact accounts.arrives stream flowing

theorem mute {after : Host} (accounts : Accounts flows base files held pieces host)
    (mute : Mute host after) : Accounts flows base files held pieces after :=
  accounts.later mute.grown
    (fun stream _ => passedSince_of_not_delivered (mute.delivered stream) (files.get stream))
    fun stream _ => congrFun mute.heldBack stream

/-- When standard output does not flow, it makes no difference what becomes of it. -/
theorem withheld {after : Host} (accounts : Accounts flows base files held pieces host)
    (stray : ¬ flows .stdout) (withheld : (withholding .stderr).allows host after) :
    Accounts flows base files held pieces after := by
  apply accounts.later withheld.1
  · rintro (_ | _) flowing
    · exact absurd flowing stray
    · exact withheld.2 _
  · rintro (_ | _) flowing
    · exact absurd flowing stray
    · rfl

/-- While the streams refer to the files, and these take what is written, the ledger
tells the same. -/
theorem ledger (accounts : Accounts flows base files held pieces host)
    (found : ∀ stream : Stream, host.opened stream.number = some (files.get stream))
    (takes : ∀ stream : Stream, flows stream → host.opened.Takes stream.number) :
    Ledger flows (Passing flows base files) held pieces host :=
  ⟨_, ⟨found, takes, accounts.grown, fun _ _ => rfl⟩, accounts.arrives⟩

theorem of_ledger (ledger : Ledger flows (Passing flows base files) held pieces host) :
    Accounts flows base files held pieces host := by
  rcases ledger with ⟨taken, passing, arrives⟩
  exact ⟨passing.grown, fun stream flowing =>
    passing.passed stream flowing ▸ arrives stream flowing⟩

/-- What the process writes goes to the files, as long as the streams refer to these. -/
theorem write {written : Stream → Bytes}
    (accounts : Accounts flows base files held (fun other => [⟨.process, written other⟩]) host)
    (found : ∀ stream : Stream, host.opened stream.number = some (files.get stream))
    (takes : ∀ stream : Stream, flows stream → host.opened.Takes stream.number) (stream : Stream)
    (bytes : Bytes) :
    Accounts flows base files held
      (fun other => [⟨.process, written other ++ stream.only bytes other⟩])
      (stream.write bytes host).2 := by
  have added := of_ledger
    ((passing_sink flows base files).writeStream stream bytes host (accounts.ledger found takes))
  exact ⟨added.grown, fun other flowing => (added.arrives other flowing).merged⟩

end Accounts

end Host

/-! ## Starting -/

theorem Stage.piped_takes (stage : Stage) (files : PerStream OpenFile) {number : Nat}
    (takes : OpenFiles.Takes stage.table.file? number) :
    OpenFiles.Takes stage.piped.table.file? number :=
  takes.kept fun _ used => (stage.adds_pipes files).kept used

/-- What takes what is written takes it away. -/
theorem OpenFiles.Takes.accepts {table : DescriptorTable} {number : Nat}
    (takes : OpenFiles.Takes table.file? number) : table.accepts number = true := by
  refine (table.accepts_iff number).mpr fun pipe found => ?_
  simpa only [Takes, found] using takes

/-- The new pipes make no difference to whether standard output takes bytes away. -/
theorem Stage.Clear.accepts_piped {stage : Stage} {files : PerStream OpenFile}
    (clear : stage.Clear files) :
    stage.piped.table.accepts Stream.stdout.number =
      stage.table.accepts Stream.stdout.number := by
  have pipes := stage.adds_pipes files
  have isOpen : stage.table.file? Stream.stdout.number ≠ none := by simp [clear.streams .stdout]
  rw [Bool.eq_iff_iff]
  refine ⟨fun accepts => ?_, fun accepts =>
    DescriptorTable.accepts_kept accepts isOpen fun _ used => pipes.kept used⟩
  rw [DescriptorTable.accepts_iff] at accepts ⊢
  intro pipe isWriter
  obtain ⟨reader, reads⟩ := accepts pipe ((pipes.kept isOpen).trans isWriter)
  have old : pipe < stage.pipes := clear.writers _ pipe isWriter
  refine ⟨reader, (pipes.others reader ?_ ?_).symm.trans reads⟩
  · rintro stream rfl
    rw [pipes.reading stream] at reads
    cases stream <;> simp [starts, PerStream.get] at reads <;> omega
  · rintro stream rfl
    rw [pipes.writing stream] at reads
    cases stream <;> simp [ends, PerStream.get] at reads

/-- What is held back of a stream and stays so when the stream is flushed. -/
def Stage.unflushed (stage : Stage) : Stream → Bytes
  | .stdout => (stage.flush .stdout).lineBuffer
  | .stderr => []

theorem Stage.unflushed_eq_nil (stage : Stage)
    (flushes : stage.lineBuffer = [] ∨ stage.table.accepts Stream.stdout.number = true)
    (stream : Stream) : stage.unflushed stream = [] := by
  cases stream with
  | stdout =>
      rcases flushes with empty | accepts
      · exact ite_eq_left_iff.mpr fun _ => empty
      · exact if_pos accepts
  | stderr => rfl

/-- What cannot be flushed when a capture is started is held back from its pipes. -/
theorem Stage.Clear.heldBack {stage : Stage} {files : PerStream OpenFile}
    (clear : stage.Clear files)
    {host : Host} (lineBuffer : host.lineBuffer = (stage.tapped files).lineBuffer) :
    host.heldBack = stage.unflushed := by
  funext stream
  cases stream with
  | stdout =>
      have tapped : (stage.tapped files).lineBuffer =
          if stage.piped.table.accepts Stream.stdout.number then [] else stage.lineBuffer := rfl
      rw [Host.heldBack, lineBuffer, tapped, clear.accepts_piped]
      rfl
  | stderr => rfl

/-- Nothing passes through standard error, and nothing at all if everything can be flushed at
the stage. -/
structure Stage.Muffled (stage : Stage) (before after : Host) : Prop where
  stderr : (withholding .stderr).allows before after
  mute : stage.unflushed .stdout = [] → before.Mute after

theorem Stage.Muffled.of_mute {stage : Stage} {before after : Host} (mute : before.Mute after) :
    stage.Muffled before after :=
  ⟨Withholding.of_mute .stderr mute, fun _ => mute⟩

/-- Saving a stream flushes it first, so that it makes no difference to have flushed
it before. -/
theorem Scope.save_after_flush (stream : Stream) {host : Host}
    (empty : (stream.flush host).2.heldBack stream = []) :
    Scope.save stream (stream.flush host).2 = Scope.save stream host := by
  rw [Scope.save, Action.bind_apply, stream.flush_unheld empty]
  rfl

theorem Capture.redirectBoth_after_flush (writers : PerStream Nat) {host : Host}
    (empty : (Stream.stdout.flush host).2.lineBuffer = []) :
    redirectBoth writers (Stream.stdout.flush host).2 = redirectBoth writers host := by
  rw [redirectBoth, Action.bind_apply, Scope.save_after_flush .stdout empty]
  rfl

/-- Releasing a capture delivers nothing. -/
theorem Capture.Released.mute {bound : Nat} {flushed host : Host} {taken : Stream → Bytes}
    {before after : Capture} (released : Released bound flushed taken before after host) :
    flushed.Mute host :=
  ⟨released.lineBuffer, released.diverted.grown, released.diverted.delivered⟩

/-! ## Readers that were started -/

namespace Capture

variable {threads : PerStream (Option Nat)} {stream : Stream}

/-- The streams whose readers were started. -/
def startedStreams (threads : PerStream (Option Nat)) : List Stream :=
  [Stream.stdout, .stderr].filter fun stream => (threads.get stream).isSome

theorem mem_startedStreams : stream ∈ startedStreams threads ↔ (threads.get stream).isSome := by
  cases stream <;> simp [startedStreams]

/-- Only a reader that was started has something to hand out. -/
theorem started_or_not (threads : PerStream (Option Nat)) (held : Stream → Bytes)
    (stream : Stream) :
    (stream ∈ startedStreams threads ∧
        threads.get stream = some ((threads.map (·.getD 0)).get stream)) ∨
      (stream ∉ startedStreams threads ∧ threads.get stream = none ∧
        (if (threads.get stream).isSome then held stream else []) = []) := by
  rw [mem_startedStreams, PerStream.get_map]
  cases threads.get stream with
  | none => exact .inr ⟨by simp, rfl, rfl⟩
  | some thread => exact .inl ⟨rfl, rfl⟩

theorem started_ne (apart : threads.stdout = threads.stderr → threads.stdout = none)
    (stdout : .stdout ∈ startedStreams threads) (stderr : .stderr ∈ startedStreams threads) :
    (threads.map (·.getD 0)).stdout ≠ (threads.map (·.getD 0)).stderr := by
  rw [mem_startedStreams] at stdout stderr
  rcases threads with ⟨_ | first, _ | second⟩
  · cases stdout
  · cases stdout
  · cases stderr
  · rintro same
    cases apart (congrArg some same)

end Capture

namespace Ensures

variable {flows : Stream → Prop} {stage : Stage} {files : PerStream OpenFile}
  {sources : List Nat} {base : Host} {held : Stream → Bytes} {pieces : Stream → List Piece}

/-- An action that delivers nothing keeps every book of what is delivered, besides what
else it ensures. -/
theorem alongside {α : Type} {pre book : Host → Prop} {action : Action α}
    {post : α → Host → Prop} (ensures : Ensures pre action post) (mute : IsMute action)
    (kept : ∀ {before after : Host}, before.Mute after → book before → book after) :
    Ensures (fun host => pre host ∧ book host) action fun value host =>
      post value host ∧ book host :=
  fun host ⟨holds, booked⟩ => ⟨ensures host holds, kept (mute host trivial).1 booked⟩

/-- Redirecting both streams passes on what is held back, even if it fails then. -/
theorem redirectBoth_accounts (clear : stage.Clear files)
    (takes : ∀ stream : Stream, flows stream →
      OpenFiles.Takes stage.table.file? stream.number)
    (writers : PerStream Nat) :
    Ensures
      (fun host => host.Reaches stage.pipes sources stage.piped ∧
        base.Accounts flows files held pieces host)
      (Capture.redirectBoth writers) fun _ => base.Accounts flows files held pieces := by
  rintro host ⟨reaches, accounts⟩
  by_cases flowing : flows .stdout
  · have opened : host.opened = stage.piped.table.file? :=
      congrArg DescriptorTable.file? reaches.table
    have ledger := accounts.ledger (fun stream => opened ▸ clear.found.streams stream)
      fun stream flowing => opened ▸ stage.piped_takes files (takes stream flowing)
    obtain ⟨flushed, empty⟩ := (Host.passing_sink flows base files).flush .stdout host ledger
    have mute := (IsMuteAtRest.redirectBoth writers _ (empty flowing)).1
    rw [← Capture.redirectBoth_after_flush writers (empty flowing)]
    exact (Host.Accounts.of_ledger flushed).mute mute
  · exact accounts.withheld flowing (Withholding.redirectBoth writers host trivial).1

theorem askToStop_taps {bound : Nat} {running : List Channel} (tap : Tap) :
    Ensures (Host.Taps bound sources stage running) (Capture.askToStop tap) fun _ =>
      Host.Taps bound sources stage running := by
  unfold Capture.askToStop
  split
  · exact .value fun _ taps => taps
  · exact fun _ taps => taps.askToStop _

/-- What standard output holds back is flushed into the pipe that it is pointed at. -/
theorem carries_flush (clear : stage.Clear files) {running : List Channel} {host : Host}
    (tapped : host.Taps stage.pipes sources (stage.tapped files) running) :
    (Stream.stdout.flush host).2.NoReadFailures ∧
      ∀ channel ∈ running, ∀ stream, channel.pipe = stage.pipeOf stream →
        (Stream.stdout.flush host).2.Carries channel (host.heldBack stream) := by
  by_cases empty : host.lineBuffer = []
  · rw [Stream.stdout.flush_at_rest empty]
    refine ⟨tapped.reaches.sound, fun channel member stream _ => ?_⟩
    rw [Host.heldBack_eq_nil empty]
    exact tapped.carries channel member
  · have sound := tapped.reaches.sound
    have inPlace := clear.inPlace
    rw [← tapped.reaches.table] at inPlace
    have found : host.opened Stream.stdout.number = some (.pipeWriter (stage.pipeOf .stdout)) :=
      (inPlace.writers .stdout _).mpr (.inl rfl)
    have readable : host.table.refersTo (.pipeReader (stage.pipeOf .stdout)) = true :=
      (host.table.refersTo_iff _).mpr ⟨_, (inPlace.readers .stdout _).mpr rfl⟩
    have delivered : host.deliver (.pipeWriter (stage.pipeOf .stdout)) host.lineBuffer =
        (.ok (), Host.feed (stage.pipeOf .stdout) host host.lineBuffer) := if_pos readable
    have written : Stream.writeOut .stdout host.lineBuffer host =
        (true, (Host.feed (stage.pipeOf .stdout) host host.lineBuffer).note
          (.delivered Stream.stdout.number host.lineBuffer)) := by
      rw [Stream.writeOut, Action.bind_apply, SystemCall.write_open found, delivered]
      rfl
    rw [Stream.flush_written empty written]
    refine ⟨sound.later (Host.fed_feed _ host _).schedule_suffix,
      fun channel member stream own => ?_⟩
    have carries := tapped.carries channel member
    have fed : (Host.feed (stage.pipeOf .stdout) host host.lineBuffer).Carries channel
        (host.heldBack stream) := by
      cases stream with
      | stdout =>
          have writable : host.isWritable channel.pipe = true := by
            rw [own]
            exact (host.table.refersTo_iff _).mpr ⟨_, found⟩
          exact own ▸ (Host.carries_feed carries sound writable host.lineBuffer).1
      | stderr =>
          have different : channel.pipe ≠ stage.pipeOf .stdout := by simp [own, Stage.pipeOf]
          exact Host.carries_feed_other different carries sound host.lineBuffer
    exact ⟨fed.known, fed.source, fed.only, fed.reader⟩

/-- What has been flushed into the pipe of standard output is left for its reader, if it was
started. -/
theorem draining_flush (clear : stage.Clear files) (threads : PerStream (Option Nat))
    {running : List Channel}
    (channels : ∀ stream thread, threads.get stream = some thread →
      { pipe := stage.pipeOf stream
        thread
        source := (stage.wiring files).sources.get stream } ∈ running) {host flushed : Host}
    (tapped : host.Taps stage.pipes sources (stage.tapped files) running)
    (isFlushed : (Stream.stdout.flush host).2 = flushed) :
    Host.Draining stage.pipes
      ((stage.wiring files).channels stage.pipeOf (threads.map (·.getD 0))) flushed
      (fun stream => if (threads.get stream).isSome then stage.unflushed stream else [])
      flushed.table.file? (Capture.startedStreams threads) flushed := by
  obtain ⟨sound, carries⟩ := carries_flush clear tapped
  rw [isFlushed] at sound carries
  refine ⟨rfl, rfl, .start sound, fun stream member => ?_⟩
  have isStarted := Capture.mem_startedStreams.mp member
  obtain ⟨thread, found⟩ := Option.isSome_iff_exists.mp isStarted
  have same : (threads.map (·.getD 0)).get stream = thread := by
    rw [PerStream.get_map, found, Option.getD_some]
  rw [if_pos isStarted, ← congrFun (clear.heldBack tapped.reaches.lineBuffer) stream,
    Wiring.channels, same]
  exact carries _ (channels stream thread found) stream rfl

/-- Stopping a capture whose pipes have not been written to: what standard output holds back
then is captured if its reader was started.  Some of the readers may not have been started. -/
theorem stop_unfed (clear : stage.Clear files) (capture : Capture)
    (threads : PerStream (Option Nat)) {running : List Channel}
    (apart : threads.stdout = threads.stderr → threads.stdout = none)
    (channels : ∀ stream thread, threads.get stream = some thread →
      { pipe := stage.pipeOf stream
        thread
        source := (stage.wiring files).sources.get stream } ∈ running) {host : Host}
    (tapped : host.Taps stage.pipes sources (stage.tapped files) running) :
    let stopped :=
      ({ capture with taps := some ((stage.wiring files).taps threads) } : Capture).stop host
    stage.Muffled host stopped.2 ∧
      ∀ stream, stopped.1.captured.get stream = capture.captured.get stream ++
        if (threads.get stream).isSome then stage.unflushed stream else [] := by
  intro stopped
  let active : Capture := { capture with taps := some ((stage.wiring files).taps threads) }
  let taps := (stage.wiring files).taps threads
  let once := (Capture.askToStop taps.stdout host).2
  let asked := (Capture.askToStop taps.stderr once).2
  let flushed := (Stream.stdout.flush asked).2
  have askedTaps : asked.Taps stage.pipes sources (stage.tapped files) running :=
    askToStop_taps taps.stderr once (askToStop_taps taps.stdout host tapped)
  have mute : host.Mute asked :=
    (IsMute.askToStop taps.stdout host trivial).1.trans
      (IsMute.askToStop taps.stderr once trivial).1
  have inPlace := clear.inPlace
  have table : flushed.table = (stage.tapped files).table :=
    (Stream.stdout.flush_utterances asked).table.trans askedTaps.reaches.table
  rw [← table] at inPlace
  have released := release active inPlace clear.found.connects.apart (Capture.started_ne apart)
    (Capture.started_or_not threads stage.unflushed) flushed
    (draining_flush clear threads channels askedTaps rfl)
  have isActive : active.taps = some ((stage.wiring files).taps threads) := rfl
  have stops : stopped = active.release (stage.wiring files) threads flushed :=
    Capture.stop_apply isActive host
  rw [stops]
  refine ⟨⟨?_, fun empty => ?_⟩, released.captured⟩
  · have withheld := (withholding .stderr).trans (Withholding.of_mute .stderr mute)
      (Withholding.letsDivert.flush .stdout asked trivial).1
    exact (withholding .stderr).trans withheld (Withholding.of_mute .stderr released.mute)
  · have atRest : asked.lineBuffer = [] :=
      (congrFun (clear.heldBack askedTaps.reaches.lineBuffer) .stdout).trans empty
    have same : flushed = asked := congrArg Prod.snd (Stream.stdout.flush_at_rest atRest)
    exact mute.trans (same ▸ released.mute)

end Ensures

end CompileDriver
