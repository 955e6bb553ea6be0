import CompileDriver.Proofs.Guard.Account

/-!
# Captures that have started

When a capture starts, the host is at the final stage, and each stream has a channel
of its own that has carried nothing yet.
-/

namespace CompileDriver

namespace Ensures

variable {stage : Stage} {files : PerStream OpenFile} {sources : List Nat}

/-- Both streams are saved and redirected, once there are the pipes. -/
theorem redirectBoth_found {bound : Nat} (found : stage.Found files)
    (old : ∀ pipe, files.stdout = .pipeWriter pipe → pipe < bound) :
    Ensures (Host.Reaches bound sources stage.piped)
      (Capture.redirectBoth (stage.wiring files).writers)
      (OnSuccess fun scopes host => scopes = (stage.wiring files).scopes ∧
        host.Reaches bound sources (stage.tapped files)) := by
  have written (pipe : Nat) (isWriter : stage.piped.table.file? Stream.stdout.number =
      some (.pipeWriter pipe)) : pipe < bound := by
    rw [found.streams .stdout] at isWriter
    exact old pipe (Option.some.inj isWriter)
  refine (save_reaches .stdout fun _ => written).bind fun first => ?_
  cases first with
  | error error => exact fun host _ => trivial
  | ok stdout =>
      rintro host ⟨rfl, first, stdoutFound, reaches⟩
      obtain rfl : files.stdout = first :=
        Option.some.inj ((found.streams .stdout).symm.trans stdoutFound)
      refine (save_reaches .stderr nofun).bind (fun second => ?_) host reaches
      cases second with
      | error error => exact fun host _ => trivial
      | ok stderr =>
          rintro host ⟨rfl, second, stderrFound, reaches⟩
          have apart : Stream.stderr.number ≠ stage.piped.table.lowestFree :=
            found.saves.stream_ne_copy .stderr .stdout
          rw [Stage.file?_copy, Stage.table_flush, Function.update_of_ne apart] at stderrFound
          obtain rfl : files.stderr = second :=
            Option.some.inj ((found.streams .stderr).symm.trans stderrFound)
          refine (redirect_reaches _ _).bind (fun first => ?_) host reaches
          cases first with
          | error error => exact fun host _ => trivial
          | ok done =>
              refine (redirect_reaches _ _).bind fun second => ?_
              cases second with
              | error error => exact fun host _ => trivial
              | ok done => exact fun host reaches => ⟨rfl, reaches⟩

theorem redirectBoth_reaches (clear : stage.Clear files) :
    Ensures (Host.Reaches stage.pipes sources stage.piped)
      (Capture.redirectBoth (stage.wiring files).writers)
      (OnSuccess fun scopes host => scopes = (stage.wiring files).scopes ∧
        host.Reaches stage.pipes sources (stage.tapped files)) := by
  apply redirectBoth_found clear.found
  intro pipe isWriter
  apply clear.writers Stream.stdout.number pipe
  rw [clear.streams .stdout, PerStream.get, isWriter]

end Ensures

/-- A capture that was started at a stage is active: its wiring is in place, and
the streams are being captured. -/
structure Capture.Active (stage : Stage) (files : PerStream OpenFile) (before after : Capture)
    (threads : PerStream Nat) (host : Host) : Prop where
  capture : after = { before with taps := some ((stage.wiring files).taps (threads.map some)) }
  table : host.table = (stage.tapped files).table
  lineBuffer : host.lineBuffer = (stage.tapped files).lineBuffer
  capturing : Host.Capturing stage.pipes ((stage.wiring files).channels stage.pipeOf threads) host
    (fun _ => []) host

namespace Capture.Active

variable {stage : Stage} {files : PerStream OpenFile} {before after : Capture}
  {threads : PerStream Nat} {host : Host}

theorem taps (active : Active stage files before after threads host) :
    after.taps = some ((stage.wiring files).taps (threads.map some)) := by
  rw [active.capture]

theorem captured (active : Active stage files before after threads host) :
    after.captured = before.captured := by
  rw [active.capture]

/-- The wiring and the threads can be read off the capture. -/
theorem unique (active : Active stage files before after threads host) {wiring : Wiring}
    {readers : PerStream Nat} (taps : after.taps = some (wiring.taps (readers.map some))) :
    wiring = stage.wiring files ∧ readers = threads := by
  rw [active.taps] at taps
  obtain ⟨sameWiring, sameThreads⟩ := Wiring.taps_injective (Option.some.inj taps)
  refine ⟨sameWiring.symm, ?_⟩
  rcases threads with ⟨stdout, stderr⟩
  rcases readers with ⟨_, _⟩
  cases sameThreads
  rfl

end Capture.Active

/-- What a capture that cannot be started gets all the same of what could not be flushed: all of
it if the first reader had been started. -/
def CaptureError.spills (unflushed : Bytes) : CaptureError → Bytes
  | .reader .stderr _ => unflushed
  | _ => []

theorem CaptureError.spills_nil (error : CaptureError) : error.spills [] = [] := by
  cases error with
  | reader stream cause => cases stream <;> rfl
  | _ => rfl

/-- What starting a capture leads to.  A book that is kept besides is kept in any case. -/
def Capture.Starts (stage : Stage) (files : PerStream OpenFile) (book : Host → Prop)
    (before : Capture) : Except CaptureError Unit × Capture → Host → Prop
  | (.error error, after), host => book host ∧
      ∀ stream, after.captured.get stream =
        before.captured.get stream ++ error.spills (stage.unflushed stream)
  | (.ok (), after), host => book host ∧ before.taps = none ∧
      ∃ threads, Capture.Active stage files before after threads host

/-- The readers read from different numbers. -/
theorem Stage.Clear.sources_ne {stage : Stage} {files : PerStream OpenFile}
    (clear : stage.Clear files) :
    (stage.wiring files).sources.stdout ≠ (stage.wiring files).sources.stderr := by
  intro same
  have stdout := (clear.inPlace.readers .stdout _).mpr rfl
  rw [show (stage.wiring files).sources.get .stdout = (stage.wiring files).sources.get .stderr
    from same, (clear.inPlace.readers .stderr _).mpr rfl] at stdout
  simp [Stage.pipeOf] at stdout

/-- Two threads that read from the pipes make the capture active. -/
theorem Host.Taps.active {stage : Stage} {files : PerStream OpenFile} {sources : List Nat}
    {host : Host} (clear : stage.Clear files) (capture : Capture) {threads : PerStream Nat}
    (taps : host.Taps stage.pipes sources (stage.tapped files)
      [(stage.wiring files).channels stage.pipeOf threads .stderr,
        (stage.wiring files).channels stage.pipeOf threads .stdout])
    (apart : threads.stdout ≠ threads.stderr) :
    Capture.Active stage files capture
      { capture with taps := some ((stage.wiring files).taps (threads.map some)) }
      threads host where
  capture := rfl
  table := taps.reaches.table
  lineBuffer := taps.reaches.lineBuffer
  capturing :=
    { feeding :=
        { separate :=
            { new := fun stream => by cases stream <;> simp [Wiring.channels, Stage.pipeOf]
              pipes := by
                rintro (_ | _) (_ | _) different <;> simp_all [Wiring.channels, Stage.pipeOf]
              threads := by
                rintro (_ | _) (_ | _) different <;>
                  simp_all [Wiring.channels, PerStream.get, apart.symm] }
          streams := taps.reaches.table ▸ clear.inPlace.streams
          sound := taps.reaches.sound
          carries := fun stream =>
            taps.carries ((stage.wiring files).channels stage.pipeOf threads stream)
              (by cases stream <;> simp) }
      table := rfl
      diverted := .start taps.reaches.sound }

namespace Ensures

variable {stage : Stage} {files : PerStream OpenFile} {sources : List Nat}

/-- The error of redirecting both streams names the stream that was not redirected. -/
theorem redirectBoth_error (writers : PerStream Nat) :
    Ensures (fun _ => True) (Capture.redirectBoth writers) fun redirected _ =>
      ∀ error, redirected = .error error → ∃ stream cause, error = .redirect stream cause := by
  have anyhow {α : Type} (action : Action α) : Ensures (fun _ => True) action fun _ _ => True :=
    fun _ _ => trivial
  have refused (stream : Stream) (cause : OsError) : Ensures (fun _ => True)
      (pure (.error (.redirect stream cause)) : Action (Except CaptureError (PerStream Scope)))
      fun redirected _ =>
        ∀ error, redirected = .error error → ∃ stream cause, error = .redirect stream cause := by
    rintro host - _ ⟨⟩
    exact ⟨stream, cause, rfl⟩
  refine (anyhow _).bind fun first => ?_
  cases first with
  | error error => exact refused _ _
  | ok stdout =>
      refine (anyhow _).bind fun second => ?_
      cases second with
      | error error => exact (anyhow _).bind fun _ => refused _ _
      | ok stderr =>
          refine (anyhow _).bind fun third => ?_
          cases third with
          | error error => exact (anyhow _).bind fun _ => (anyhow _).bind fun _ => refused _ _
          | ok done =>
              refine (anyhow _).bind fun fourth => ?_
              cases fourth with
              | error error => exact (anyhow _).bind fun _ => (anyhow _).bind fun _ => refused _ _
              | ok done => exact fun _ _ _ => by simp

/-- The tap of a stream gives its pipe a reader. -/
theorem startTap_stream (clear : stage.Clear files) (stream : Stream) (running : List Channel)
    (unread : ∀ other ∈ sources, other ≠ (stage.wiring files).sources.get stream)
    (apart : ∀ channel ∈ running, channel.pipe ≠ stage.pipeOf stream) (tap : Tap)
    (source : tap.source = (stage.wiring files).sources.get stream) (nonblocking : Bool) :
    Ensures (Host.Taps stage.pipes sources (stage.tapped files) running)
      (Capture.startTap tap nonblocking)
      (Outcome (Host.Taps stage.pipes sources (stage.tapped files) running) fun thread host =>
        host.Taps stage.pipes ((stage.wiring files).sources.get stream :: sources)
          (stage.tapped files)
          ({ pipe := stage.pipeOf stream
             thread
             source := (stage.wiring files).sources.get stream } :: running) ∧
          ∀ channel ∈ running, channel.thread ≠ thread) := by
  have readers := clear.inPlace.readers stream
  rw [← source] at readers unread ⊢
  refine startTap_reaches tap nonblocking ?_ ?_ ((readers _).mpr rfl)
    (fun other member found => unread other member ((readers other).mp found)) apart
  · cases stream
    · exact Nat.le_refl _
    · exact Nat.le_succ _
  · cases stream
    · exact Nat.lt_add_of_pos_right (by decide : 0 < 2)
    · exact Nat.lt_succ_self _

/-- A capture that is given up since a reader cannot be started. -/
theorem starts_givenUp (clear : stage.Clear files) (capture : Capture)
    (threads : PerStream (Option Nat)) {running : List Channel}
    (apart : threads.stdout = threads.stderr → threads.stdout = none)
    (channels : ∀ stream thread, threads.get stream = some thread →
      { pipe := stage.pipeOf stream
        thread
        source := (stage.wiring files).sources.get stream } ∈ running)
    {book : Host → Prop}
    (kept : ∀ {before after : Host}, stage.Muffled before after → book before → book after)
    {error : CaptureError}
    (spilt : ∀ stream, (if (threads.get stream).isSome then stage.unflushed stream else []) =
      error.spills (stage.unflushed stream)) :
    Ensures
      (fun host => host.Taps stage.pipes sources (stage.tapped files) running ∧ book host)
      (do
        let stopped ←
          ({ capture with taps := some ((stage.wiring files).taps threads) } : Capture).stop
        return (.error error, stopped))
      (Capture.Starts stage files book capture) := by
  rintro host ⟨tapped, booked⟩
  obtain ⟨muffled, captured⟩ := stop_unfed clear capture threads apart channels tapped
  exact ⟨kept muffled booked, fun stream => (captured stream).trans (by rw [spilt])⟩

theorem startReaders_active (clear : stage.Clear files)
    (sourcesOpen : ∀ source ∈ sources, stage.table.file? source ≠ none) {capture : Capture}
    (inactive : capture.taps = none) {book : Host → Prop}
    (kept : ∀ {before after : Host}, stage.Muffled before after → book before → book after) :
    Ensures (fun host => host.Reaches stage.pipes sources (stage.tapped files) ∧ book host)
      (capture.startReaders ((stage.wiring files).taps { stdout := none, stderr := none }))
      (Capture.Starts stage files book capture) := by
  have isNew (stream : Stream) : ∀ other ∈ sources,
      other ≠ (stage.wiring files).sources.get stream := by
    rintro other member rfl
    exact sourcesOpen _ member ((stage.adds_pipes files).isFree stream).1
  let taps := (stage.wiring files).taps { stdout := none, stderr := none }
  rintro host ⟨reaches, booked⟩
  have idle : host.Taps stage.pipes sources (stage.tapped files) [] := ⟨reaches, by simp⟩
  have first := startTap_stream clear .stdout [] (isNew .stdout) (by simp) taps.stdout rfl
    capture.nonblocking
  refine (first.alongside (.startTap _ _) (kept ∘ .of_mute)).bind (fun outcome => ?_) host
    ⟨idle, booked⟩
  cases outcome with
  | error error =>
      exact starts_givenUp clear capture { stdout := none, stderr := none } (fun _ => rfl)
        (by rintro (_ | _) thread ⟨⟩) kept (by rintro (_ | _) <;> rfl)
  | ok stdout =>
      rintro host ⟨⟨tapped, -⟩, booked⟩
      let channel : Channel :=
        { pipe := stage.pipeOf .stdout
          thread := stdout
          source := (stage.wiring files).sources.get .stdout }
      have second := startTap_stream clear .stderr [channel]
        (List.forall_mem_cons.mpr ⟨clear.sources_ne, isNew .stderr⟩)
        (by simp [channel, Stage.pipeOf]) taps.stderr rfl capture.nonblocking
      refine (second.alongside (.startTap _ _) (kept ∘ .of_mute)).bind (fun outcome => ?_) host
        ⟨tapped, booked⟩
      cases outcome with
      | error error =>
          exact starts_givenUp clear capture { stdout := some stdout, stderr := none } (by simp)
            (by rintro (_ | _) thread ⟨⟩; simp [channel]) kept (by rintro (_ | _) <;> rfl)
      | ok stderr =>
          rintro host ⟨⟨both, apart⟩, booked⟩
          let threads : PerStream Nat := { stdout, stderr }
          have active : Capture.Active stage files capture
              { capture with taps := some ((stage.wiring files).taps (threads.map some)) }
              threads host := both.active clear capture (apart channel (by simp))
          exact ⟨booked, inactive, threads, active⟩

/-- A capture that starts is active. -/
theorem start_active (clear : stage.Clear files)
    (sourcesOpen : ∀ source ∈ sources, stage.table.file? source ≠ none) (capture : Capture)
    {book : Host → Prop}
    (kept : ∀ {before after : Host}, stage.Muffled before after → book before → book after)
    (redirecting : Ensures
      (fun host => host.Reaches stage.pipes sources stage.piped ∧ book host)
      (Capture.redirectBoth (stage.wiring files).writers) fun _ => book) :
    Ensures (fun host => host.Reaches stage.pipes sources stage ∧ book host) capture.start
      (Capture.Starts stage files book capture) := by
  unfold Capture.start
  split
  · exact fun _ both => ⟨both.2, fun _ => (List.append_nil _).symm⟩
  · rename_i notActive
    have inactive : capture.taps = none := by simpa [Capture.isActive] using notActive
    have makes (stage : Stage) (bound : Nat) :
        Ensures (fun host => host.Reaches bound sources stage ∧ book host) SystemCall.pipe
          fun ends host => OnSuccess (fun ends host =>
            ends = stage.pipeEnds ∧ host.Reaches bound sources stage.pipe) ends host ∧ book host :=
      pipe_reaches.alongside .pipe (kept ∘ .of_mute)
    have unchanged (host : Host) (booked : book host) : book host ∧
        ∀ stream, capture.captured.get stream = capture.captured.get stream ++ [] :=
      ⟨booked, fun _ => (List.append_nil _).symm⟩
    have closed (ends : Nat × Nat) :
        Ensures book (Capture.closePipe ends) fun _ => book :=
      fun host booked => kept (.of_mute (IsMute.closePipe ends host trivial).1) booked
    refine (makes stage stage.pipes).bind fun first => ?_
    cases first with
    | error error => exact .value fun host both => unchanged host both.2
    | ok stdoutPipe =>
        rintro host ⟨⟨rfl, reaches⟩, booked⟩
        refine (makes stage.pipe stage.pipes).bind (fun second => ?_) host ⟨reaches, booked⟩
        cases second with
        | error error =>
            rintro host ⟨-, booked⟩
            exact (closed _).bind (fun _ => .value unchanged) host booked
        | ok stderrPipe =>
            rintro host ⟨⟨rfl, reaches⟩, booked⟩
            have both : Ensures
                (fun host => host.Reaches stage.pipes sources stage.piped ∧ book host)
                (Capture.redirectBoth (stage.wiring files).writers) fun redirected host =>
                  (OnSuccess (fun scopes host => scopes = (stage.wiring files).scopes ∧
                    host.Reaches stage.pipes sources (stage.tapped files)) redirected host ∧
                    book host) ∧
                  ∀ error, redirected = .error error →
                    ∃ stream cause, error = .redirect stream cause :=
              fun host both => ⟨⟨redirectBoth_reaches clear host both.1, redirecting host both⟩,
                redirectBoth_error _ host trivial⟩
            refine both.bind (fun redirected => ?_) host ⟨reaches, booked⟩
            cases redirected with
            | error error =>
                rintro host ⟨⟨-, booked⟩, named⟩
                obtain ⟨stream, cause, rfl⟩ := named error rfl
                refine (closed _).bind (fun _ => ?_) host booked
                exact (closed _).bind fun _ => .value unchanged
            | ok scopes =>
                rintro host ⟨⟨⟨rfl, reaches⟩, booked⟩, -⟩
                exact startReaders_active clear sourcesOpen inactive kept host ⟨reaches, booked⟩

end Ensures

end CompileDriver
