import CompileDriver.Proofs.Guard.CaptureExact
import CompileDriver.Proofs.Guard.OneStream

/-!
# Capturing standard error while standard output is closed

When standard output alone is closed, the reading end of its new pipe takes its number
and is replaced by the writing end as soon as the stream is redirected.  The reader of
standard output then has nothing to read from, but the pipe of standard error is not
affected: the capture holds exactly what is written to standard error.

The other way round nothing is captured.  When standard error alone is closed, its
number is taken by the reading end of the pipe of standard output, and that is replaced
when standard error is redirected.
-/

namespace CompileDriver

open Function (update)

namespace Host

/-- A thread was started, and it is the only one that reads from a number. -/
structure Attached (thread source : Nat) (host : Host) : Prop where
  started : thread < host.threadsStarted
  only : ∀ reader ∈ host.readers, reader.thread = thread ↔ reader.source = source

namespace Attached

variable {thread source : Nat} {before after : Host}

/-- Later on the same is true when no thread was added. -/
theorem later (attached : Attached thread source before)
    (started : before.threadsStarted ≤ after.threadsStarted)
    (identities : ∀ reader ∈ after.readers,
      ∃ earlier ∈ before.readers, earlier.identity = reader.identity) :
    Attached thread source after where
  started := Nat.lt_of_lt_of_le attached.started started
  only reader member := by
    obtain ⟨earlier, present, same⟩ := identities reader member
    have identity := Prod.mk.inj same
    rw [← identity.1, ← identity.2]
    exact attached.only earlier present

theorem readersRan (attached : Attached thread source before) (ran : ReadersRan before after) :
    Attached thread source after :=
  attached.later ran.grows.2 ran.identities

theorem fed {pipe : Nat} (attached : Attached thread source before)
    (fed : Fed pipe before after) : Attached thread source after :=
  attached.later (Nat.le_of_eq (by rw [fed.rest])) fed.identities

theorem endCall (attached : Attached thread source before) :
    Attached thread source before.endCall := by
  have noted : Attached thread source (before.note .systemCall) :=
    attached.later (Nat.le_refl _) fun reader member => ⟨reader, member, rfl⟩
  exact noted.readersRan (readersRan_takeTurn _)

theorem askToStop (attached : Attached thread source before) (other : Nat) :
    Attached thread source (before.askToStop other) := by
  refine attached.later (Nat.le_refl _) fun reader member => ?_
  obtain ⟨earlier, present, rfl⟩ := List.mem_map.mp member
  refine ⟨earlier, present, ?_⟩
  split <;> rfl

theorem join (attached : Attached thread source before) (other : Nat) :
    Attached thread source (before.join other).2 := by
  have waited := attached.readersRan
    (readersRan_await before fun host => !host.isReading other)
  exact ⟨waited.started, fun reader member => waited.only reader (List.mem_of_mem_filter member)⟩

end Attached

end Host

/-! ## The stage -/

namespace Stage

variable {stage : Stage} {file : OpenFile}

/-- Standard output alone is closed, and standard error refers to a file. -/
structure HalfOpen (stage : Stage) (file : OpenFile) : Prop where
  fresh : stage.Fresh
  input : stage.table.file? 0 ≠ none
  stdout : stage.table.file? Stream.stdout.number = none
  stderr : stage.table.file? Stream.stderr.number = some file

/-- What the streams refer to once there are the pipes. -/
def halfFiles (stage : Stage) (file : OpenFile) : PerStream OpenFile :=
  { stdout := .pipeReader (stage.pipeOf .stdout), stderr := file }

/-- The wiring of a capture that is started from here. -/
abbrev halfWiring (stage : Stage) (file : OpenFile) : Wiring :=
  stage.wiring (stage.halfFiles file)

/-- The channel of standard error. -/
def halfChannel (stage : Stage) (file : OpenFile) (thread : Nat) : Channel :=
  { pipe := stage.pipeOf .stderr
    thread
    source := (stage.halfWiring file).sources.stderr }

namespace HalfOpen

/-- The reading end of the pipe of standard output takes the number of the stream. -/
theorem source_eq (half : stage.HalfOpen file) :
    (stage.halfWiring file).sources.stdout = Stream.stdout.number :=
  @Stream.lowestFree_other .stderr _ half.input (by simp [half.stderr]) half.stdout

theorem found (half : stage.HalfOpen file) : stage.Found (stage.halfFiles file) where
  streams stream := by
    have pipes := stage.adds_pipes (stage.halfFiles file)
    cases stream with
    | stdout =>
        rw [← half.source_eq]
        exact pipes.reading .stdout
    | stderr =>
        have open' := half.stderr
        refine (pipes.others _ (fun other same => ?_) fun other same => ?_).trans open'
        · rw [same, (pipes.isFree other).1] at open'
          cases open'
        · rw [same, (pipes.isFree other).2] at open'
          cases open'

/-- What the streams refer to is neither end of the pipe of standard error. -/
theorem notEnd (half : stage.HalfOpen file) (stream : Stream) :
    (stage.halfFiles file).get stream ≠ .pipeReader (stage.pipeOf .stderr) ∧
      (stage.halfFiles file).get stream ≠ .pipeWriter (stage.pipeOf .stderr) := by
  cases stream with
  | stdout => simp [halfFiles, PerStream.get, pipeOf]
  | stderr =>
      constructor
      · rintro rfl
        have known := half.fresh.readers _ _ half.stderr
        exact absurd known (Nat.not_lt.mpr (Nat.le_succ _))
      · rintro rfl
        have known := half.fresh.writers _ _ half.stderr
        exact absurd known (Nat.not_lt.mpr (Nat.le_succ _))

/-- The other pipe has another number for its reading end. -/
theorem source_ne (half : stage.HalfOpen file) :
    (stage.halfWiring file).sources.stderr ≠ Stream.stdout.number := by
  have pipes := stage.adds_pipes (stage.halfFiles file)
  intro same
  have stdout := half.found.streams .stdout
  rw [← same, show stage.piped.table.file? (stage.halfWiring file).sources.stderr = _ from
    pipes.reading .stderr] at stdout
  simp [halfFiles, starts, PerStream.get, pipeOf] at stdout

/-- The reading end of a pipe has another number than the writing ends. -/
theorem source_ne_writer (stage : Stage) (file : OpenFile) (stream : Stream) :
    (stage.halfWiring file).sources.stderr ≠ (stage.halfWiring file).writers.get stream := by
  have pipes := stage.adds_pipes (stage.halfFiles file)
  have reading := pipes.reading .stderr
  intro same
  rw [show (stage.halfWiring file).sources.get .stderr = _ from same, pipes.writing stream]
    at reading
  cases stream <;> simp [starts, ends, PerStream.get] at reading

/-- Standard error points at the writing end of its pipe, and is inherited. -/
theorem tapped_stderr (half : stage.HalfOpen file) :
    (stage.tapped (stage.halfFiles file)).table.get? Stream.stderr.number =
      some ⟨.pipeWriter (stage.pipeOf .stderr), true⟩ :=
  half.found.tapped_stream half.fresh fun other => (half.notEnd other).2

theorem tapped_reader (half : stage.HalfOpen file) (number : Nat) :
    (stage.tapped (stage.halfFiles file)).table.file? number =
        some (.pipeReader (stage.pipeOf .stderr)) ↔
      number = (stage.halfWiring file).sources.stderr :=
  half.found.tapped_reader half.fresh (fun other => (half.notEnd other).1) number

theorem tapped_writer (half : stage.HalfOpen file) (number : Nat) :
    (stage.tapped (stage.halfFiles file)).table.file? number =
        some (.pipeWriter (stage.pipeOf .stderr)) ↔
      number = Stream.stderr.number ∨ number = (stage.halfWiring file).writers.stderr :=
  half.found.tapped_writer half.fresh (fun other => (half.notEnd other).2) number

/-- Writing to the reading end of a pipe fails, which empties the line buffer. -/
theorem tapped_lineBuffer (half : stage.HalfOpen file) :
    (stage.tapped (stage.halfFiles file)).lineBuffer = [] := by
  have accepts : stage.piped.table.accepts Stream.stdout.number = true := by
    simp [DescriptorTable.accepts, half.found.streams .stdout, halfFiles, PerStream.get]
  exact if_pos accepts

end HalfOpen

end Stage

/-! ## While the capture is active -/

/-- The capture is active, and the channel of standard error carries what was written to
it.  Nothing is held back, and the process has not waited in vain since `base`. -/
structure Host.Listening (stage : Stage) (file : OpenFile) (threads : PerStream Nat) (base : Host)
    (taken : Bytes) (host : Host) : Prop where
  table : host.table = (stage.tapped (stage.halfFiles file)).table
  lineBuffer : host.lineBuffer = []
  sound : host.NoReadFailures
  attached : host.Attached threads.stdout Stream.stdout.number
  carries : host.Carries (stage.halfChannel file threads.stderr) taken
  running : host.stuck = base.stuck

namespace Host.Listening

variable {stage : Stage} {file : OpenFile} {threads : PerStream Nat} {base host : Host}
  {taken : Bytes}

theorem playRound (listening : Listening stage file threads base taken host) {round : Round}
    (sound : ∀ step ∈ round, ∀ error, step.2 ≠ .fail error) :
    Listening stage file threads base taken (host.playRound round) := by
  have ran := readersRan_playRound host round
  exact
    { table := ran.table.trans listening.table
      lineBuffer := ran.lineBuffer.trans listening.lineBuffer
      sound := listening.sound.later ran.schedule_suffix
      attached := listening.attached.readersRan ran
      carries := carries_playRound listening.carries sound
      running := ran.stuck.trans listening.running }

theorem askToStop (listening : Listening stage file threads base taken host) (thread : Nat) :
    Listening stage file threads base taken (host.askToStop thread) where
  table := listening.table
  lineBuffer := listening.lineBuffer
  sound := listening.sound
  attached := listening.attached.askToStop thread
  carries := carries_askToStop listening.carries thread
  running := listening.running

/-- What is written to standard error goes to its channel. -/
theorem write (half : stage.HalfOpen file)
    (listening : Listening stage file threads base taken host)
    (bytes : Bytes) :
    (SystemCall.write Stream.stderr.number bytes host).1 = .ok () ∧
      Listening stage file threads base (taken ++ bytes)
        (SystemCall.write Stream.stderr.number bytes host).2 := by
  let channel := stage.halfChannel file threads.stderr
  have found : host.table.file? Stream.stderr.number = some (.pipeWriter channel.pipe) := by
    rw [listening.table]
    exact DescriptorTable.file?_of_get? _ half.tapped_stderr
  have readable : host.table.refersTo (.pipeReader channel.pipe) = true :=
    (host.table.refersTo_iff _).mpr ⟨_, listening.carries.source⟩
  have writable : host.isWritable channel.pipe = true :=
    (host.table.refersTo_iff _).mpr ⟨_, found⟩
  have delivered : host.deliver (.pipeWriter channel.pipe) bytes =
      (.ok (), Host.feed channel.pipe host bytes) := if_pos readable
  have fed := fed_feed channel.pipe host bytes
  obtain ⟨carried, running⟩ := carries_feed listening.carries listening.sound writable bytes
  rw [SystemCall.write_open found, delivered]
  constructor
  · rfl
  · exact
      { table := fed.table.trans listening.table
        lineBuffer := by
          change (Host.feed channel.pipe host bytes).lineBuffer = []
          rw [fed.rest]
          exact listening.lineBuffer
        sound := listening.sound.later fed.schedule_suffix
        attached := (listening.attached.fed fed).later (Nat.le_refl _)
          fun reader member => ⟨reader, member, rfl⟩
        carries := ⟨carried.known, carried.source, carried.only, carried.reader⟩
        running := running.trans listening.running }

end Host.Listening

namespace Happening

/-- Nothing is written but to one stream. -/
def Concerns (stream : Stream) : Happening → Prop
  | .write other _ | .inherited other _ => other = stream
  | .readers _ => True

/-- What is written. -/
def bytes : Happening → Bytes
  | .write _ bytes | .inherited _ bytes => bytes
  | .readers _ => []

end Happening

namespace Host.Listening

variable {stage : Stage} {file : OpenFile} {threads : PerStream Nat} {base host : Host}
  {taken : Bytes}

/-- The channel takes what is written to standard error. -/
theorem perform (half : stage.HalfOpen file)
    (listening : Listening stage file threads base taken host) {happening : Happening}
    (sound : happening.IsSound) (concerns : happening.Concerns .stderr) :
    Listening stage file threads base (taken ++ happening.bytes) (happening.perform host).2 := by
  cases happening with
  | write stream bytes =>
      obtain rfl := concerns
      obtain ⟨written, later⟩ := listening.write half bytes
      simp only [Happening.perform, Stream.write, Stream.writeOut, Action.discard_apply,
        Action.bind_apply, written]
      exact later
  | inherited stream bytes =>
      obtain rfl := concerns
      obtain ⟨-, later⟩ := listening.write half bytes
      have inherits := half.tapped_stderr
      rw [← listening.table] at inherits
      simp only [Happening.perform, Spawn.writeInherited, Action.bind_apply, Action.get_apply,
        inherits, Action.discard_apply]
      exact later
  | readers round =>
      simp only [Happening.bytes, List.append_nil]
      exact listening.playRound sound

/-- The channel takes everything that is written to standard error, in order. -/
theorem happen (half : stage.HalfOpen file)
    (listening : Listening stage file threads base taken host) {happenings : List Happening}
    (sound : ∀ happening ∈ happenings, happening.IsSound)
    (concern : ∀ happening ∈ happenings, happening.Concerns .stderr) :
    Listening stage file threads base (taken ++ happenings.flatMap Happening.bytes)
      (CompileDriver.happen happenings host).2 := by
  induction happenings generalizing taken host with
  | nil =>
      rw [List.flatMap_nil, List.append_nil]
      exact listening
  | cons happening rest ih =>
      obtain ⟨isSound, restSound⟩ := List.forall_mem_cons.mp sound
      obtain ⟨concerns, restConcern⟩ := List.forall_mem_cons.mp concern
      have first := listening.perform half isSound concerns
      rw [List.flatMap_cons, ← List.append_assoc]
      exact ih first restSound restConcern

end Host.Listening

/-! ## Starting -/

namespace Host

variable {bound source : Nat} {sources : List Nat} {stage : Stage} {host next : Host}

/-- A new thread is the only one that reads from a number of its own. -/
theorem Reaches.startReader (reaches : host.Reaches bound sources stage)
    (apart : source ∉ sources) {thread : Nat}
    (done : host.startReader source = .ok (thread, next)) :
    next.Reaches bound (source :: sources) stage ∧ next.Attached thread source := by
  obtain ⟨rfl, rfl⟩ := startReader_ok done
  constructor
  · exact
      { table := reaches.table
        pipes := reaches.pipes
        lineBuffer := reaches.lineBuffer
        sound := reaches.sound
        threads := by
          intro reader member
          rcases List.mem_append.mp member with earlier | isNew
          · exact Nat.lt_succ_of_lt (reaches.threads reader earlier)
          · rw [List.mem_singleton.mp isNew]
            exact Nat.lt_succ_self _
        sources := by
          intro reader member
          rcases List.mem_append.mp member with earlier | isNew
          · exact List.mem_cons_of_mem _ (reaches.sources reader earlier)
          · rw [List.mem_singleton.mp isNew]
            exact List.mem_cons_self
        fresh := reaches.fresh }
  · constructor
    · exact Nat.lt_succ_self _
    · intro reader member
      rcases List.mem_append.mp member with earlier | isNew
      · have older := reaches.threads reader earlier
        have otherSource : reader.source ≠ source := by
          rintro rfl
          exact apart (reaches.sources reader earlier)
        exact iff_of_false (Nat.ne_of_lt older) otherSource
      · rw [List.mem_singleton.mp isNew]
        exact iff_of_true rfl rfl

/-- Another new thread that reads from another number does not matter. -/
theorem Attached.startReader {thread number : Nat} (attached : host.Attached thread number)
    (apart : source ≠ number) {other : Nat} (done : host.startReader source = .ok (other, next)) :
    next.Attached thread number ∧ thread ≠ other := by
  obtain ⟨rfl, rfl⟩ := startReader_ok done
  have older := attached.started
  refine ⟨⟨Nat.lt_succ_of_lt older, ?_⟩, Nat.ne_of_lt older⟩
  intro reader member
  rcases List.mem_append.mp member with earlier | isNew
  · exact attached.only reader earlier
  · rw [List.mem_singleton.mp isNew]
    exact iff_of_false (Nat.ne_of_gt older) apart

end Host

/-- What starting a capture leads to when it succeeds. -/
def Capture.HalfStarts (stage : Stage) (file : OpenFile) (before : Capture)
    (outcome : Except CaptureError Unit × Capture) (host : Host) : Prop :=
  outcome.1 = .ok () → before.taps = none ∧ ∃ threads : PerStream Nat,
    outcome.2 = { before with taps := some ((stage.halfWiring file).taps (threads.map some)) } ∧
      threads.stdout ≠ threads.stderr ∧ Host.Listening stage file threads host [] host

namespace Ensures

variable {stage : Stage} {file : OpenFile} {sources : List Nat}

/-- The first reader only moves the reading end of its pipe off standard output. -/
theorem startTap_stdout_half (half : stage.HalfOpen file)
    (unused : Stream.stdout.number ∉ sources) (nonblocking : Bool) :
    Ensures (Host.Reaches stage.pipes sources (stage.tapped (stage.halfFiles file)))
      (Capture.startTap ((stage.halfWiring file).taps { stdout := none, stderr := none }).stdout
        nonblocking)
      (Outcome (Host.Reaches stage.pipes sources (stage.tapped (stage.halfFiles file)))
        fun thread host =>
          host.Reaches stage.pipes (Stream.stdout.number :: sources)
            (stage.tapped (stage.halfFiles file)) ∧
          host.Attached thread Stream.stdout.number) := by
  apply startTap_outcome
  · exact fun _ refusals reaches => reaches.refused refusals
  · exact fun _ reaches => reaches.endCall
  · exact fun _ _ ⟨reaches, attached⟩ => ⟨reaches.endCall, attached.endCall⟩
  · intro host thread next reaches done
    rw [show ((stage.halfWiring file).taps { stdout := none, stderr := none }).stdout.source =
      Stream.stdout.number from half.source_eq] at done
    exact reaches.startReader unused done

/-- The second reader listens to standard error's pipe, and the first keeps its source. -/
theorem startTap_stderr_half (half : stage.HalfOpen file)
    (sourcesOpen : ∀ source ∈ sources, stage.table.file? source ≠ none) (stdout : Nat)
    (nonblocking : Bool) :
    Ensures
      (fun host => host.Reaches stage.pipes (Stream.stdout.number :: sources)
        (stage.tapped (stage.halfFiles file)) ∧ host.Attached stdout Stream.stdout.number)
      (Capture.startTap ((stage.halfWiring file).taps { stdout := none, stderr := none }).stderr
        nonblocking)
      (OnSuccess fun stderr host => stdout ≠ stderr ∧
        Host.Listening stage file { stdout, stderr } host [] host) := by
  let tapped := stage.tapped (stage.halfFiles file)
  let taps := (stage.halfWiring file).taps { stdout := none, stderr := none }
  let Before (host : Host) : Prop :=
    host.Reaches stage.pipes (Stream.stdout.number :: sources) tapped ∧
      host.Attached stdout Stream.stdout.number
  have unread : ∀ other ∈ Stream.stdout.number :: sources, tapped.table.file? other ≠
      some (.pipeReader (stage.pipeOf .stderr)) := by
    intro other member isReader
    obtain rfl := (half.tapped_reader other).mp isReader
    rcases List.mem_cons.mp member with same | isSource
    · exact half.source_ne same
    · exact sourcesOpen _ isSource ((stage.adds_pipes (stage.halfFiles file)).isFree .stderr).1
  have attempted : Ensures Before (Capture.startTap taps.stderr nonblocking)
      (Outcome Before fun stderr host =>
        host.Taps stage.pipes (taps.stderr.source :: Stream.stdout.number :: sources) tapped
          [stage.halfChannel file stderr] ∧
          host.Attached stdout Stream.stdout.number ∧ stdout ≠ stderr) := by
    apply startTap_outcome
    · exact fun _ refusals ⟨reaches, attached⟩ =>
        ⟨reaches.refused refusals, attached.started, attached.only⟩
    · exact fun _ ⟨reaches, attached⟩ => ⟨reaches.endCall, attached.endCall⟩
    · exact fun _ _ ⟨taps, attached, apart⟩ => ⟨taps.endCall, attached.endCall, apart⟩
    · intro host stderr next ⟨reaches, attached⟩ done
      have idle : host.Taps stage.pipes (Stream.stdout.number :: sources) tapped [] :=
        ⟨reaches, by simp⟩
      have started := idle.startReader done (Nat.le_succ stage.pipes)
        (Nat.lt_succ_self (stage.pipes + 1)) ((half.tapped_reader _).mpr rfl) unread
        (by simp)
      exact ⟨started.1, attached.startReader half.source_ne done⟩
  refine attempted.weaken ?_
  rintro (error | stderr) host reached
  · trivial
  · obtain ⟨started, attached, apart⟩ := reached
    exact ⟨apart,
      { table := started.reaches.table
        lineBuffer := started.reaches.lineBuffer.trans half.tapped_lineBuffer
        sound := started.reaches.sound
        attached := attached
        carries := started.carries _ List.mem_cons_self
        running := rfl }⟩

theorem startReaders_half (half : stage.HalfOpen file)
    (sourcesOpen : ∀ source ∈ sources, stage.table.file? source ≠ none) {capture : Capture}
    (inactive : capture.taps = none) :
    Ensures (Host.Reaches stage.pipes sources (stage.tapped (stage.halfFiles file)))
      (capture.startReaders ((stage.halfWiring file).taps { stdout := none, stderr := none }))
      (Capture.HalfStarts stage file capture) := by
  have unused : Stream.stdout.number ∉ sources :=
    fun member => sourcesOpen _ member half.stdout
  refine (startTap_stdout_half half unused capture.nonblocking).bind fun outcome => ?_
  cases outcome with
  | error error => exact fun _ _ succeeded => nomatch succeeded
  | ok stdout =>
      have second := startTap_stderr_half half sourcesOpen stdout capture.nonblocking
      refine second.bind fun outcome => ?_
      cases outcome with
      | error error => exact fun _ _ succeeded => nomatch succeeded
      | ok stderr =>
          rintro host ⟨apart, listening⟩ -
          exact ⟨inactive, { stdout, stderr }, rfl, apart, listening⟩

/-- A capture that starts listens to standard error. -/
theorem start_half (half : stage.HalfOpen file)
    (sourcesOpen : ∀ source ∈ sources, stage.table.file? source ≠ none) (capture : Capture) :
    Ensures (Host.Reaches stage.pipes sources stage) capture.start
      (Capture.HalfStarts stage file capture) := by
  unfold Capture.start
  split
  · rintro _ _ ⟨⟩
  · rename_i notActive
    have inactive : capture.taps = none := by simpa [Capture.isActive] using notActive
    refine pipe_reaches.bind fun first => ?_
    cases first with
    | error error => rintro _ _ ⟨⟩
    | ok stdoutPipe =>
        rintro host ⟨rfl, reaches⟩
        refine pipe_reaches.bind (fun second => ?_) host reaches
        cases second with
        | error error => rintro _ _ ⟨⟩
        | ok stderrPipe =>
            rintro host ⟨rfl, reaches⟩
            have redirecting : Ensures (Host.Reaches stage.pipes sources stage.piped) _ _ :=
              redirectBoth_found half.found (by simp [Stage.halfFiles])
            refine redirecting.bind (fun redirected => ?_) host reaches
            cases redirected with
            | error error => rintro _ _ ⟨⟩
            | ok scopes =>
                rintro host ⟨rfl, reaches⟩
                exact startReaders_half half sourcesOpen inactive host reaches

end Ensures

/-! ## Stopping -/

namespace Host

/-- A thread that has ended is joined at once. -/
theorem stuck_join_of_ended {host : Host} {thread : Nat} (ended : host.isReading thread = false) :
    (host.join thread).2.stuck = host.stuck := by
  have waited : (host.await fun host => !host.isReading thread).isReading thread = false := by
    have later (schedule : List Round) :
        ({ host with schedule } : Host).isReading thread = false := ended
    unfold await
    cases host.schedule with
    | nil => simp [playUntil, later]
    | cons round rest => simp [playUntil, ended, later]
  have ran := readersRan_await host fun host => !host.isReading thread
  simp only [join, waited, Bool.or_false, ran.stuck]

/-- The only thread that reads from a number is joined without waiting in vain, when the
number alone refers to the reading end of a pipe that cannot be written to. -/
theorem Attached.stuck_join {thread source pipe : Nat} {host : Host}
    (attached : host.Attached thread source) (sound : host.NoReadFailures)
    (known : pipe < host.pipes.length)
    (reader : ∀ number, host.opened number = some (.pipeReader pipe) ↔ number = source)
    (closed : ∀ number, host.opened number ≠ some (.pipeWriter pipe)) :
    (host.join thread).2.stuck = host.stuck := by
  cases found : host.reader? thread with
  | none =>
      apply stuck_join_of_ended
      simp [isReading, found]
  | some last =>
      obtain ⟨member, named⟩ := reader?_eq_some found
      have own : last.source = source := (attached.only last member).mp named
      by_cases reading : last.status = .reading
      · let channel : Channel := { pipe, thread, source }
        have carries : host.Carries channel (last.collected ++ host.queue pipe) :=
          { known := known
            source := (reader source).mpr rfl
            only := by
              intro other present
              by_cases same : other.thread = thread
              · exact .inl same
              · apply Or.inr
                intro isReader
                exact same ((attached.only other present).mpr ((reader _).mp isReader))
            reader := ⟨last, found, own, rfl, .inl reading⟩ }
        exact (join_of_closed carries sound (host.table.refersTo_eq_false closed)).2
      · apply stuck_join_of_ended
        simp [isReading, found, reading]

theorem Attached.retabled {thread source : Nat} {host : Host}
    (attached : host.Attached thread source) (table : DescriptorTable) :
    ({ host with table } : Host).endCall.Attached thread source := by
  have changed : ({ host with table } : Host).Attached thread source :=
    attached.later (Nat.le_refl _) fun reader member => ⟨reader, member, rfl⟩
  exact changed.endCall

end Host

namespace Stage

variable {stage : Stage} {file : OpenFile}

/-- What the numbers refer to when the streams are restored and the writing ends of the
pipes are closed. -/
def halfReleased (stage : Stage) (file : OpenFile) : OpenFiles :=
  let wiring := stage.halfWiring file
  update (update (update (update (update (update (stage.tapped (stage.halfFiles file)).table.file?
    Stream.stdout.number (some (.pipeReader (stage.pipeOf .stdout)))) wiring.copies.stdout none)
    Stream.stderr.number (some file)) wiring.copies.stderr none) wiring.writers.stdout none)
    wiring.writers.stderr none

namespace HalfOpen

/-- The number of standard output is neither that of a copy nor that of a writing end. -/
theorem stdout_ne (half : stage.HalfOpen file) (stream : Stream) :
    Stream.stdout.number ≠ (stage.halfWiring file).copies.get stream ∧
      Stream.stdout.number ≠ (stage.halfWiring file).writers.get stream := by
  constructor
  · exact half.found.saves.stream_ne_copy .stdout stream
  · intro same
    have stdout := half.found.streams .stdout
    rw [same, (stage.adds_pipes (stage.halfFiles file)).writing stream] at stdout
    cases stream <;> simp [halfFiles, ends, PerStream.get] at stdout

/-- Once it is restored, the number of standard output alone refers to the reading end of
its pipe. -/
theorem released_reader (half : stage.HalfOpen file) (number : Nat) :
    stage.halfReleased file number = some (.pipeReader (stage.pipeOf .stdout)) ↔
      number = Stream.stdout.number := by
  have source := half.source_eq
  have isPiped := half.fresh.piped_reader (stage.halfFiles file) .stdout number
  have notCopy := (half.stdout_ne .stdout).1
  have notOtherCopy := (half.stdout_ne .stderr).1
  have notWriter := (half.stdout_ne .stdout).2
  have notOtherWriter := (half.stdout_ne .stderr).2
  have old : file ≠ .pipeReader (stage.pipeOf .stdout) := by
    rintro rfl
    exact Nat.lt_irrefl _ (half.fresh.readers _ _ half.stderr)
  simp only [halfReleased, halfWiring, Function.update_apply, PerStream.get] at *
  rcases half.found.tapped_cases number with ⟨other, same, known⟩ | ⟨other, same, known⟩ | known
  · cases other <;> grind [Stream.number]
  · cases other <;> grind [PerStream.get]
  · rw [source] at isPiped
    grind [Stream.number]

/-- Nothing can be written to the pipes any more. -/
theorem released_writer (half : stage.HalfOpen file) (stream : Stream) (number : Nat) :
    stage.halfReleased file number ≠ some (.pipeWriter (stage.pipeOf stream)) := by
  have isPiped := half.fresh.piped_writer (stage.halfFiles file) stream number
  have old : file ≠ .pipeWriter (stage.pipeOf stream) := by
    rintro rfl
    have new : stage.pipes ≤ stage.pipeOf stream := by cases stream <;> simp [pipeOf]
    exact absurd (half.fresh.writers _ _ half.stderr) (Nat.not_lt.mpr new)
  simp only [halfReleased, Function.update_apply]
  rcases half.found.tapped_cases number with ⟨other, same, known⟩ | ⟨other, same, known⟩ | known
  · cases other <;> grind [Stream.number]
  · cases other <;> grind [PerStream.get]
  · cases stream <;> grind [PerStream.get]

end HalfOpen

end Stage

/-- The capture has been released: its buffer of standard error has gained what was taken,
and nothing was waited for in vain since `base`, before the early end of the reader of
standard output was reported. -/
structure Capture.HalfReleased (base : Host) (taken : Bytes) (before after : Capture)
    (host : Host) : Prop where
  inactive : after.taps = none
  captured : after.captured.stderr = before.captured.stderr ++ taken
  waited : ∃ joined early, joined.stuck = base.stuck ∧
    host = (reportEarlyEnd .stdout early joined).2

/-- While the capture is being stopped: the numbers refer to these files, the channel of
standard error carries what was taken, and one thread reads from the number of standard
output. -/
def Host.HalfDraining (stage : Stage) (file : OpenFile) (threads : PerStream Nat) (base : Host)
    (taken : Bytes) (files : OpenFiles) (host : Host) : Prop :=
  Host.Draining stage.pipes (fun _ => stage.halfChannel file threads.stderr) base (fun _ => taken)
      files [.stderr] host ∧
    host.Attached threads.stdout Stream.stdout.number

namespace Ensures

variable {stage : Stage} {file : OpenFile} {threads : PerStream Nat} {base : Host}
  {taken : Bytes} {files : OpenFiles}

theorem close_half {number : Nat}
    (apart : (stage.halfWiring file).sources.stderr ≠ number) :
    Ensures (Host.HalfDraining stage file threads base taken files) (SystemCall.close number)
      fun _ => Host.HalfDraining stage file threads base taken (update files number none) :=
  fun host ⟨draining, attached⟩ =>
    ⟨close_draining (fun _ _ => apart) host draining, attached.retabled _⟩

theorem giveBack_half {copy number : Nat} {saved : OpenFile} (found : files copy = some saved)
    (apart : (stage.halfWiring file).sources.stderr ≠ number)
    (old : saved ≠ .pipeReader (stage.pipeOf .stderr)) :
    Ensures (Host.HalfDraining stage file threads base taken files)
      (SystemCall.giveBack copy number) fun _ =>
        Host.HalfDraining stage file threads base taken (update files number (some saved)) := by
  rintro host ⟨draining, attached⟩
  refine ⟨giveBack_draining found (fun _ _ => apart) (fun _ _ => old) host draining, ?_⟩
  rw [SystemCall.giveBack_saved (show host.table.file? copy = _ from draining.files ▸ found)]
  exact attached.retabled _

theorem restore_half {copy : Nat} {saved : OpenFile} (found : files copy = some saved)
    (apart : (stage.halfWiring file).sources.stderr ≠ Stream.stderr.number)
    (notCopy : (stage.halfWiring file).sources.stderr ≠ copy)
    (old : saved ≠ .pipeReader (stage.pipeOf .stderr)) :
    Ensures (Host.HalfDraining stage file threads base taken files)
      (Scope.restore { stream := .stderr, saved := some copy }) fun _ =>
        Host.HalfDraining stage file threads base taken
          (update (update files Stream.stderr.number (some saved)) copy none) :=
  (giveBack_half found apart old).discarded.bind fun _ =>
    (close_half notCopy).bind fun _ => .value fun _ draining => draining

/-- The reader of standard output ends, one way or the other. -/
theorem joinTap_half (half : stage.HalfOpen file) (apart : threads.stdout ≠ threads.stderr)
    {tap : Tap} (thread : tap.thread = some threads.stdout) :
    Ensures (Host.HalfDraining stage file threads base taken (stage.halfReleased file))
      (Capture.joinTap tap) fun _ =>
        Host.HalfDraining stage file threads base taken (stage.halfReleased file) := by
  rintro host ⟨draining, attached⟩
  have joined : (Capture.joinTap tap host).2 = (host.join threads.stdout).2 := by
    simp only [Capture.joinTap, thread, SystemCall.joinReader, Action.bind_apply,
      Action.get_apply, Action.set_apply, Action.pure_apply]
    rcases (host.join threads.stdout).1 with _ | reader
    · rfl
    · dsimp only
      cases reader.status <;> rfl
  rw [joined]
  have carries := draining.carries .stderr List.mem_cons_self
  have returns : (host.join threads.stdout).2.stuck = host.stuck := by
    apply attached.stuck_join draining.diverted.sound
    · exact Nat.lt_of_succ_lt carries.known
    · rw [draining.files]
      exact half.released_reader
    · rw [draining.files]
      exact half.released_writer .stdout
  have ran := Host.readersRan_await host fun host => !host.isReading threads.stdout
  have waited := draining.diverted.readersRan ran
  constructor
  · exact
      { files := (congrArg DescriptorTable.file? (Host.table_join host _)).trans draining.files
        lineBuffer := ran.lineBuffer.trans draining.lineBuffer
        diverted := ⟨waited.sound, waited.grown, waited.delivered, waited.received, waited.files,
          waited.older, returns.trans draining.diverted.stuck⟩
        carries := fun _ _ =>
          Host.carries_join_other carries draining.diverted.sound apart.symm }
  · exact attached.join threads.stdout

/-- Releasing the capture takes everything from the channel of standard error, and waits
for nothing in vain before it reports how the readers ended. -/
theorem release_half (half : stage.HalfOpen file) (apart : threads.stdout ≠ threads.stderr)
    (capture : Capture) :
    Ensures (Host.HalfDraining stage file threads base taken
        (stage.tapped (stage.halfFiles file)).table.file?)
      (capture.release (stage.halfWiring file) (threads.map some))
      (Capture.HalfReleased base taken capture) := by
  have differs := half.found.differs
  have saves := half.found.saves
  have source := (half.tapped_reader (stage.halfWiring file).sources.stderr).mpr rfl
  have copyNe (stream : Stream) : (stage.halfWiring file).sources.stderr ≠
      (stage.halfWiring file).copies.get stream := by
    intro same
    rw [same, differs.kept stream] at source
    exact (half.notEnd stream).1 (Option.some.inj source)
  have streamNe : (stage.halfWiring file).sources.stderr ≠ Stream.stderr.number := by
    intro same
    rw [same, (half.tapped_writer _).mpr (.inl rfl)] at source
    cases source
  have stderrSaved : update (update (stage.tapped (stage.halfFiles file)).table.file?
      Stream.stdout.number (some (.pipeReader (stage.pipeOf .stdout))))
      (stage.halfWiring file).copies.stdout none (stage.halfWiring file).copies.stderr =
        some file := by
    have different : (stage.halfWiring file).copies.stderr ≠ Stream.stdout.number :=
      (saves.stream_ne_copy .stdout .stderr).symm
    rw [Function.update_of_ne saves.apart.symm, Function.update_of_ne different]
    exact differs.kept .stderr
  unfold Capture.release
  refine (giveBack_half (differs.kept .stdout) half.source_ne
    (half.notEnd .stdout).1).discarded.bind fun _ => ?_
  refine (close_half (copyNe .stdout)).bind fun _ => ?_
  refine (restore_half stderrSaved streamNe (copyNe .stderr) (half.notEnd .stderr).1).discarded.bind
    fun _ => ?_
  refine (close_half (Stage.HalfOpen.source_ne_writer stage file .stdout)).bind fun _ => ?_
  refine (close_half (Stage.HalfOpen.source_ne_writer stage file .stderr)).bind fun _ => ?_
  let taps := (stage.halfWiring file).taps (threads.map some)
  have thread : taps.stdout.thread = some threads.stdout := rfl
  refine (joinTap_half half apart thread).bind fun first => ?_
  rintro host ⟨draining, -⟩
  refine (joinTap_draining (half.released_writer .stderr) (by simp) taps.stderr
    (.inl ⟨List.mem_cons_self, rfl⟩)).bind (fun second => ?_) host draining
  rintro host ⟨rfl, draining⟩
  have none (stream : Stream) : stream ∉ [Stream.stderr].filter (· ≠ Stream.stderr) := by simp
  refine (close_draining fun stream member => absurd member (none stream)).bind (fun _ => ?_)
    host draining
  refine (close_draining fun stream member => absurd member (none stream)).bind fun _ => ?_
  exact fun host draining => ⟨rfl, rfl, host, first.2, draining.diverted.stuck, rfl⟩

end Ensures

namespace Capture

/-- A capture that is active takes what is written to standard error until it is
stopped. -/
theorem stop_half {stage : Stage} {file : OpenFile} (half : stage.HalfOpen file)
    {threads : PerStream Nat} (apart : threads.stdout ≠ threads.stderr) {capture : Capture}
    (active : capture.taps = some ((stage.halfWiring file).taps (threads.map some)))
    {base host : Host} {taken : Bytes}
    (listening : Host.Listening stage file threads base taken host) :
    HalfReleased base taken capture (capture.stop host).1 (capture.stop host).2 := by
  have asked := (listening.askToStop threads.stdout).askToStop threads.stderr
  have stops : capture.stop host = capture.release (stage.halfWiring file) (threads.map some)
      ((host.askToStop threads.stdout).askToStop threads.stderr) := by
    apply (stop_apply active host).trans
    exact congrArg _ (congrArg Prod.snd (Stream.stdout.flush_at_rest asked.lineBuffer))
  have files : ((host.askToStop threads.stdout).askToStop threads.stderr).opened =
      (stage.tapped (stage.halfFiles file)).table.file? :=
    congrArg DescriptorTable.file? asked.table
  have released := Ensures.release_half half apart capture _
    ⟨⟨files, rfl, .start asked.sound, fun _ _ => asked.carries⟩, asked.attached⟩
  rw [stops]
  obtain ⟨joined, early, running, final⟩ := released.waited
  exact ⟨released.inactive, released.captured, joined, early, running.trans asked.running, final⟩

/-- A closed standard output does not break capturing standard error.  From every
well-formed host on which standard output is closed while the input and standard error
are open, if the capture starts, then after it was stopped its buffer of standard error
has gained exactly what was written to the stream, in order, however the readers moved
in between.  Stopping waits for nothing in vain; at the end it may report that the reader
of standard output had nothing to read from. -/
theorem stderr_exact_when_stdout_closed (capture : Capture) {host : Host}
    (wellFormed : host.WellFormed) (input : host.opened 0 ≠ none)
    (stdout : host.opened Stream.stdout.number = none)
    (stderr : host.opened Stream.stderr.number ≠ none) (readsSucceed : host.NoReadFailures)
    {happenings : List Happening} (sound : ∀ happening ∈ happenings, happening.IsSound)
    (concern : ∀ happening ∈ happenings, happening.Concerns .stderr)
    (started : (capture.episode happenings host).outcome = .ok ()) :
    let episode := capture.episode happenings host
    (episode.stopped.bytes .stderr episode.final).1 =
        (capture.bytes .stderr host).1 ++ happenings.flatMap Happening.bytes ∧
      ∃ joined early, joined.stuck = episode.started.stuck ∧
        episode.final = (reportEarlyEnd .stdout early joined).2 := by
  obtain ⟨file, found⟩ := Option.ne_none_iff_exists'.mp stderr
  have half : host.stage.HalfOpen file :=
    ⟨⟨wellFormed.readers, wellFormed.writers⟩, input, stdout, found⟩
  have starts := Ensures.start_half half wellFormed.sources_open capture host
    (wellFormed.reaches readsSucceed)
  rcases begun : capture.start host with ⟨⟨outcome, active⟩, first⟩
  simp only [episode, begun] at started starts ⊢
  obtain ⟨inactive, threads, same, apart, listening⟩ := starts started
  change active = _ at same
  have tapped : active.taps = some ((host.stage.halfWiring file).taps (threads.map some)) := by
    rw [same]
  have played := listening.happen half sound concern
  have released := stop_half half apart tapped played
  have gained := released.captured
  rw [List.nil_append, show active.captured.stderr = capture.captured.stderr by rw [same]] at gained
  constructor
  · rw [bytes_of_inactive inactive]
    exact (bytes_of_inactive released.inactive .stderr _).trans gained
  · exact released.waited

/-- Two warnings are captured while standard output is closed, and the reader of standard
output moves in between. -/
theorem stderr_exact_when_stdout_closed_interleaved :
    let capture : Capture := { captured := { stdout := [], stderr := Bytes.ofText "before\n" } }
    let host : Host := { table := DescriptorTable.standard.close 1 }
    let happenings : List Happening :=
      [.write .stderr (Bytes.ofText "first\n"), .readers [(0, .read 9), (1, .read 3)],
        .inherited .stderr (Bytes.ofText "second\n")]
    let episode := capture.episode happenings host
    (episode.stopped.bytes .stderr episode.final).1 = Bytes.ofText "before\nfirst\nsecond\n" := by
  intro capture host happenings episode
  have standard : ({ table := .standard } : Host).WellFormed := .of_standard rfl rfl
  have wellFormed : host.WellFormed := standard.close (by simp)
  have sound : ∀ happening ∈ happenings, happening.IsSound := by
    grind [Happening.IsSound]
  have concern : ∀ happening ∈ happenings, happening.Concerns .stderr := by
    grind [Happening.Concerns]
  have started : episode.outcome = .ok () := by decide +kernel
  have exact := (stderr_exact_when_stdout_closed capture wellFormed (by decide) (by decide)
    (by decide) (by simp [host, Host.NoReadFailures]) sound concern started).1
  rw [exact]
  decide +kernel

/-- The other way round nothing is captured: with standard error closed, the reading end
of the pipe of standard output has its number, and is lost when standard error is
redirected. -/
theorem stdout_lost_when_stderr_closed :
    let capture : Capture := {}
    let host : Host := { table := DescriptorTable.standard.close 2 }
    let episode := capture.episode [.write .stdout (Bytes.ofText "hello\n")] host
    host.opened 0 ≠ none ∧ host.opened 1 ≠ none ∧ host.opened 2 = none ∧
      episode.outcome = .ok () ∧
      episode.started.opened 1 ≠ none ∧
      (episode.stopped.bytes .stdout episode.final).1 = [] := by
  decide +kernel

end Capture

end CompileDriver
