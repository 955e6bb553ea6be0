import CompileDriver.Guard.Capture
import CompileDriver.Guard.Suppressor
import CompileDriver.Proofs.Guard.Spares
import CompileDriver.Proofs.Host.Opened

/-!
# Guards give back what they take

How suppressors and captures change the open files.  When a guard cannot be set
up, the files and the threads are as before.  When it is set up, it has taken
some numbers that were free, and the streams point elsewhere; giving it up points
them back and frees its numbers again, whatever happened to other numbers in
between.
-/

namespace CompileDriver

open Function (update)

variable {files : OpenFiles} {threads : List (Nat × Nat)}

namespace Ensures

/-! ## Scopes -/

theorem flush (stream : Stream) :
    Ensures (Host.Shows files threads) stream.flush fun _ => Host.Shows files threads :=
  of_speaks (Speaks.flush (fun _ => not_false) stream) files threads

theorem debug (message : String) :
    Ensures (Host.Shows files threads) (Log.debug message) fun _ => Host.Shows files threads :=
  of_speaks (Speaks.debug (fun _ => not_false) message) files threads

/-- A scope saves the file of its stream under a free number. -/
theorem save (stream : Stream) :
    Ensures (Host.Shows files threads) (Scope.save stream)
      (Attempt files threads fun scope host => ∃ copy file,
        scope = { stream, saved := some copy } ∧ files stream.number = some file ∧
          files copy = none ∧ host.Shows (update files copy (some file)) threads) := by
  refine (flush stream).bind fun _ => (duplicate stream.number).bind fun outcome => ?_
  cases outcome with
  | error error => exact value fun _ shows => shows
  | ok copy =>
      exact value fun host ⟨file, found, isFree, shows⟩ => ⟨copy, file, rfl, found, isFree, shows⟩

/-- Restoring points the stream back and frees the number of the saved file. -/
theorem restore (stream : Stream) {copy : Nat} {file : OpenFile}
    (saved : files copy = some file) :
    Ensures (Host.Shows files threads) (Scope.restore { stream, saved := some copy }) fun _ =>
      Host.Shows (update (update files stream.number (some file)) copy none) threads :=
  (flush stream).bind fun _ => (giveBack saved stream.number).discarded.bind fun _ =>
    (close copy).bind fun _ => value fun _ shows => shows

theorem restored_copy {number copy : Nat} {file : OpenFile} (found : files number = some file)
    (isFree : files copy = none) :
    update (update (update files copy (some file)) number (some file)) copy none = files := by
  funext other
  simp only [Function.update_apply]
  split
  · rename_i same
    rw [same, isFree]
  · split
    · rename_i same
      rw [same, found]
    · rfl

/-- Restoring a scope at once undoes it. -/
theorem restore_saved (stream : Stream) {copy : Nat} {file : OpenFile}
    (found : files stream.number = some file) (isFree : files copy = none) :
    Ensures (Host.Shows (update files copy (some file)) threads)
      (Scope.restore { stream, saved := some copy }) fun _ => Host.Shows files threads := by
  have restored : Ensures (Host.Shows (update files copy (some file)) threads) _ _ :=
    restore stream (Function.update_self copy (some file) files)
  rwa [restored_copy found isFree] at restored

end Ensures

/-! ## Suppressors -/

/-- A suppressor that hides its stream, whose target is saved under a number. -/
def Suppressor.hiding (stream : Stream) (copy : Nat) : Suppressor :=
  { stream, scope := some { stream, saved := some copy }, state := .engaged }

namespace Ensures

theorem closed_again {number : Nat} (isFree : files number = none) (file : OpenFile) :
    update (update files number (some file)) number none = files := by
  rw [Function.update_idem, ← isFree, Function.update_eq_self]

/-- What hiding a stream leads to: nothing has changed after a failure; otherwise the file
of the stream is saved, and the stream points at the discard device, which has been opened
after `bound` openings. -/
def Discarded (stream : Stream) (bound : Nat) (files : OpenFiles)
    (threads : List (Nat × Nat)) : Except OsError Scope → Host → Prop :=
  Attempt files threads fun scope host => ∃ copy file opening,
    scope = { stream, saved := some copy } ∧ files stream.number = some file ∧
      files copy = none ∧ bound ≤ opening ∧
      host.Shows
        (update (update files copy (some file)) stream.number (some (.discard opening)))
        threads

theorem discardStream_since (stream : Stream) (bound : Nat) :
    Ensures (fun host => host.Shows files threads ∧ bound ≤ host.openings)
      (Suppressor.discardStream stream) (Discarded stream bound files threads) := by
  have kept : Ensures (fun host => bound ≤ host.openings) (Scope.save stream) fun _ host =>
      bound ≤ host.openings := by
    intro host known
    have spares := Spares.save (fun _ => not_false) stream host fun _ => False.elim
    exact Nat.le_trans known (Host.Steps.openings_le spares.1)
  refine ((save stream).both kept).bind fun saved => ?_
  cases saved with
  | error error => exact value fun _ saved => saved.1
  | ok scope =>
      rintro host ⟨⟨copy, file, rfl, found, isFree, shows⟩, known⟩
      refine (openAs_since bound .discard).bind (fun opened => ?_) host ⟨shows, known⟩
      cases opened with
      | error error =>
          exact (restore_saved stream found isFree).discarded.bind fun _ =>
            value fun _ shows => shows
      | ok number =>
          rintro host ⟨numberFree, opening, later, shows⟩
          refine (redirect number stream.number).bind (fun redirected => ?_) host shows
          have different : stream.number ≠ number := by
            rintro rfl
            rw [Function.update_apply] at numberFree
            split at numberFree
            · cases numberFree
            · rw [found] at numberFree
              cases numberFree
          cases redirected with
          | error error =>
              refine (close number).bind fun _ => ?_
              rw [closed_again numberFree]
              exact (restore_saved stream found isFree).discarded.bind fun _ =>
                value fun _ shows => shows
          | ok done =>
              rintro host ⟨target, known, shows⟩
              rw [Function.update_self] at known
              cases known
              refine (close number).bind (fun _ => ?_) host shows
              rw [Function.update_comm different, closed_again numberFree]
              exact value fun host shows =>
                ⟨copy, file, opening, rfl, found, isFree, later, shows⟩

/-- A stream is hidden behind the discard device, its file is saved. -/
theorem discardStream (stream : Stream) :
    Ensures (Host.Shows files threads) (Suppressor.discardStream stream)
      (Attempt files threads fun scope host => ∃ copy file opening,
        scope = { stream, saved := some copy } ∧ files stream.number = some file ∧
          files copy = none ∧
          host.Shows
            (update (update files copy (some file)) stream.number (some (.discard opening)))
            threads) := by
  intro host shows
  refine (discardStream_since stream 0 host ⟨shows, Nat.zero_le _⟩).weaken fun scope hidden => ?_
  obtain ⟨copy, file, opening, same, found, isFree, -, shown⟩ := hidden
  exact ⟨copy, file, opening, same, found, isFree, shown⟩

/-- A suppressor is inert, or its stream is hidden and it keeps the saved
file. -/
theorem engage (stream : Stream) (wanted : Bool) :
    Ensures (Host.Shows files threads) (Suppressor.engage stream wanted) fun suppressor host =>
      (suppressor = .inert stream ∧ host.Shows files threads) ∨
        ∃ copy file opening, suppressor = .hiding stream copy ∧
          files stream.number = some file ∧ files copy = none ∧
          host.Shows
            (update (update files copy (some file)) stream.number (some (.discard opening)))
            threads := by
  unfold Suppressor.engage
  split
  · exact value fun host shows => .inl ⟨rfl, shows⟩
  · refine (discardStream stream).bind fun outcome => ?_
    cases outcome with
    | ok scope =>
        refine value fun host ⟨copy, file, opening, same, rest⟩ => ?_
        rw [same]
        exact .inr ⟨copy, file, opening, rfl, rest⟩
    | error error => exact (debug _).bind fun _ => value fun host shows => .inl ⟨rfl, shows⟩

theorem restoreSuppressor (stream : Stream) {copy : Nat} {file : OpenFile}
    (saved : files copy = some file) :
    Ensures (Host.Shows files threads) (Suppressor.hiding stream copy).restore fun _ =>
      Host.Shows (update (update files stream.number (some file)) copy none) threads :=
  (restore stream saved).discarded.bind fun _ => value fun _ shows => shows

theorem restoreSuppressor_inert (stream : Stream) :
    Ensures (Host.Shows files threads) (Suppressor.inert stream).restore fun _ =>
      Host.Shows files threads :=
  value fun _ shows => shows

end Ensures

/-! ## Captures -/

/-- The numbers that an active capture keeps for each stream: the two ends of its
pipe, and the copy of its saved descriptor. -/
structure Wiring where
  sources : PerStream Nat
  writers : PerStream Nat
  copies : PerStream Nat

namespace Wiring

/-- All numbers of a wiring. -/
def numbers (wiring : Wiring) : List Nat :=
  [wiring.sources.stdout, wiring.writers.stdout, wiring.sources.stderr, wiring.writers.stderr,
    wiring.copies.stdout, wiring.copies.stderr]

/-- The taps of a wiring, with the threads that read. -/
def taps (wiring : Wiring) (threads : PerStream (Option Nat)) : PerStream Tap :=
  { stdout :=
      { scope := { stream := .stdout, saved := some wiring.copies.stdout }
        writer := wiring.writers.stdout
        source := wiring.sources.stdout
        thread := threads.stdout }
    stderr :=
      { scope := { stream := .stderr, saved := some wiring.copies.stderr }
        writer := wiring.writers.stderr
        source := wiring.sources.stderr
        thread := threads.stderr } }

/-- The taps tell the wiring and the threads. -/
theorem taps_injective {wiring other : Wiring} {threads others : PerStream (Option Nat)}
    (same : wiring.taps threads = other.taps others) : wiring = other ∧ threads = others := by
  rcases wiring with ⟨⟨_, _⟩, ⟨_, _⟩, ⟨_, _⟩⟩
  rcases other with ⟨⟨_, _⟩, ⟨_, _⟩, ⟨_, _⟩⟩
  rcases threads with ⟨_, _⟩
  rcases others with ⟨_, _⟩
  simp only [taps, PerStream.mk.injEq, Tap.mk.injEq, Scope.mk.injEq, Option.some.injEq,
    true_and] at same
  rcases same with ⟨⟨rfl, rfl, rfl, rfl⟩, rfl, rfl, rfl, rfl⟩
  exact ⟨rfl, rfl⟩

/-- The open files after a wiring is given up. -/
def released (wiring : Wiring) (files : OpenFiles) : OpenFiles := fun number =>
  if number ∈ wiring.numbers then none
  else if number = Stream.stdout.number then files wiring.copies.stdout
  else if number = Stream.stderr.number then files wiring.copies.stderr
  else files number

/-- The copies are not in the way of the streams or of each other. -/
structure Apart (wiring : Wiring) : Prop where
  copies : wiring.copies.stdout ≠ wiring.copies.stderr
  streams : ∀ stream other : Stream, wiring.copies.get stream ≠ other.number

theorem released_eq {wiring : Wiring} (apart : wiring.Apart) {stdoutFile stderrFile : OpenFile}
    (stdoutSaved : files wiring.copies.stdout = some stdoutFile)
    (stderrSaved : files wiring.copies.stderr = some stderrFile) :
    wiring.released files =
      update (update (update (update (update (update (update (update files
        Stream.stdout.number (some stdoutFile)) wiring.copies.stdout none)
        Stream.stderr.number (some stderrFile)) wiring.copies.stderr none)
        wiring.writers.stdout none) wiring.writers.stderr none)
        wiring.sources.stdout none) wiring.sources.stderr none := by
  have stdoutApart : wiring.copies.stdout ≠ Stream.stderr.number := apart.streams .stdout .stderr
  have streamsApart : Stream.stdout.number ≠ Stream.stderr.number := by decide
  funext number
  simp only [released, numbers, List.mem_cons, List.not_mem_nil, or_false, Function.update_apply]
  grind

end Wiring

/-- The threads that are left when the reader of a tap has been joined. -/
def Tap.joined (thread : Option Nat) (threads : List (Nat × Nat)) : List (Nat × Nat) :=
  match thread with
  | none => threads
  | some thread => threads.filter fun identity => identity.1 ≠ thread

/-- A thread that was added is gone when it has been joined. -/
theorem Tap.joined_started (thread source : Nat) (threads : List (Nat × Nat)) :
    Tap.joined (some thread) ((thread, source) :: threads) ⊆ threads := by
  intro identity member
  simp only [Tap.joined, List.mem_filter, List.mem_cons, decide_eq_true_eq] at member
  obtain ⟨rfl | known, different⟩ := member
  · exact absurd rfl different
  · exact known

theorem Tap.joined_subset (thread : Option Nat) {threads more : List (Nat × Nat)}
    (subset : threads ⊆ more) : Tap.joined thread threads ⊆ Tap.joined thread more := by
  cases thread with
  | none => exact subset
  | some thread => exact List.filter_subset _ subset

/-- Both threads of a capture are gone when they have been joined. -/
theorem Tap.joined_both (first second firstSource secondSource : Nat)
    (threads : List (Nat × Nat)) :
    Tap.joined (some second) (Tap.joined (some first)
      ((second, secondSource) :: (first, firstSource) :: threads)) ⊆ threads := by
  intro identity member
  simp only [Tap.joined, List.mem_filter, List.mem_cons, decide_eq_true_eq] at member
  obtain ⟨⟨rfl | rfl | known, notFirst⟩, notSecond⟩ := member
  · exact absurd rfl notSecond
  · exact absurd rfl notFirst
  · exact known

namespace Ensures

theorem joinTap (tap : Tap) :
    Ensures (Host.Shows files threads) (Capture.joinTap tap) fun _ =>
      Host.Shows files (Tap.joined tap.thread threads) := by
  rcases tap with ⟨scope, writer, source, _ | thread⟩
  · exact value fun _ shows => shows
  · refine (joinReader thread).bind fun reader => ?_
    split
    · exact value fun _ shows => shows
    · split <;> exact value fun _ shows => shows

theorem askToStop (tap : Tap) :
    Ensures (Host.Shows files threads) (Capture.askToStop tap) fun _ =>
      Host.Shows files threads := by
  unfold Capture.askToStop
  split
  · exact value fun _ shows => shows
  · intro host shows
    refine ⟨shows.files, ?_⟩
    refine List.Subset.trans (Host.threads_subset fun reader member => ?_) shows.threads
    obtain ⟨earlier, known, rfl⟩ := List.mem_map.mp member
    refine ⟨earlier, known, ?_⟩
    split <;> rfl

theorem reportEarlyEnd (stream : Stream) (early : Option OsError) :
    Ensures (Host.Shows files threads) (Capture.reportEarlyEnd stream early) fun _ =>
      Host.Shows files threads :=
  of_speaks (Speaks.reportEarlyEnd (fun _ => not_false) stream early) files threads

/-- Stopping releases the wiring of a capture and joins its threads. -/
theorem stop {capture : Capture} {wiring : Wiring} {readers : PerStream (Option Nat)}
    (active : capture.taps = some (wiring.taps readers)) (apart : wiring.Apart)
    (saved : ∀ stream, files (wiring.copies.get stream) ≠ none) :
    Ensures (Host.Shows files threads) capture.stop fun stopped host => stopped.taps = none ∧
      host.Shows (wiring.released files)
        (Tap.joined readers.stderr (Tap.joined readers.stdout threads)) := by
  obtain ⟨stdoutFile, stdoutSaved⟩ := Option.ne_none_iff_exists'.mp (saved .stdout)
  obtain ⟨stderrFile, stderrSaved⟩ := Option.ne_none_iff_exists'.mp (saved .stderr)
  unfold Capture.stop
  rw [active]
  refine (askToStop _).bind fun _ => (askToStop _).bind fun _ => ?_
  refine (restore .stdout stdoutSaved).discarded.bind fun _ => ?_
  have stillSaved : update (update files Stream.stdout.number (some stdoutFile))
      wiring.copies.stdout none wiring.copies.stderr = some stderrFile := by
    have different : wiring.copies.stderr ≠ Stream.stdout.number := apart.streams .stderr .stdout
    rw [Function.update_of_ne apart.copies.symm, Function.update_of_ne different]
    exact stderrSaved
  refine (restore .stderr stillSaved).discarded.bind fun _ => ?_
  refine (close _).bind fun _ => (close _).bind fun _ => ?_
  refine (joinTap _).bind fun _ => (joinTap _).bind fun _ => ?_
  refine (close _).bind fun _ => (close _).bind fun _ => ?_
  refine (reportEarlyEnd _ _).bind fun _ => (reportEarlyEnd _ _).bind fun _ => ?_
  refine value fun host shows => ⟨rfl, ?_⟩
  rw [wiring.released_eq apart stdoutSaved stderrSaved]
  exact shows

end Ensures

/-- Both streams are open, and there are free numbers for copies of their
descriptors. -/
structure Saves (files : OpenFiles) (copies : PerStream Nat) (saved : PerStream OpenFile) :
    Prop where
  found : ∀ stream : Stream, files stream.number = some (saved.get stream)
  isFree : ∀ stream, files (copies.get stream) = none
  apart : copies.stdout ≠ copies.stderr

namespace Saves

variable {copies : PerStream Nat} {saved : PerStream OpenFile}

/-- The open files with the copies. -/
def copied (files : OpenFiles) (copies : PerStream Nat) (saved : PerStream OpenFile) : OpenFiles :=
  update (update files copies.stdout (some saved.stdout)) copies.stderr (some saved.stderr)

/-- The open files with the copies, when the streams point elsewhere. -/
def diverted (files : OpenFiles) (copies : PerStream Nat) (saved ends : PerStream OpenFile) :
    OpenFiles :=
  update (update (copied files copies saved) Stream.stdout.number (some ends.stdout))
    Stream.stderr.number (some ends.stderr)

/-- A copy is new, so a number that was open is no copy. -/
theorem ne_copy (saves : Saves files copies saved) {number : Nat} (used : files number ≠ none)
    (stream : Stream) : number ≠ copies.get stream := by
  rintro rfl
  exact used (saves.isFree stream)

theorem stream_ne_copy (saves : Saves files copies saved) (stream other : Stream) :
    stream.number ≠ copies.get other :=
  saves.ne_copy (by simp [saves.found stream]) other

theorem copied_of_open (saves : Saves files copies saved) {number : Nat}
    (used : files number ≠ none) : copied files copies saved number = files number := by
  have notStdout : number ≠ copies.stdout := saves.ne_copy used .stdout
  have notStderr : number ≠ copies.stderr := saves.ne_copy used .stderr
  rw [copied, Function.update_of_ne notStderr, Function.update_of_ne notStdout]

/-- The files differ from those with the copies at the streams at most. -/
structure Differs (files : OpenFiles) (copies : PerStream Nat) (saved : PerStream OpenFile)
    (now : OpenFiles) : Prop where
  kept : ∀ stream, now (copies.get stream) = some (saved.get stream)
  others : ∀ number, (∀ stream : Stream, number ≠ stream.number) →
    (∀ stream, number ≠ copies.get stream) → now number = files number

theorem differs_copied (saves : Saves files copies saved) :
    Differs files copies saved (copied files copies saved) where
  kept stream := by
    cases stream with
    | stdout =>
        rw [copied, PerStream.get, Function.update_of_ne saves.apart, Function.update_self]
        rfl
    | stderr => exact Function.update_self _ _ _
  others number _ notCopy := by
    have notStdout : number ≠ copies.stdout := notCopy .stdout
    have notStderr : number ≠ copies.stderr := notCopy .stderr
    rw [copied, Function.update_of_ne notStderr, Function.update_of_ne notStdout]

theorem Differs.update {now : OpenFiles} (saves : Saves files copies saved)
    (differs : Differs files copies saved now) (stream : Stream) (file : OpenFile) :
    Differs files copies saved (update now stream.number (some file)) where
  kept other := by
    rw [Function.update_of_ne (saves.stream_ne_copy stream other).symm, differs.kept]
  others number notStream notCopy := by
    rw [Function.update_of_ne (notStream stream), differs.others number notStream notCopy]

/-- Restoring the second stream leaves the copy of the first one alone. -/
theorem Differs.stdout_kept {now : OpenFiles} (saves : Saves files copies saved)
    (differs : Differs files copies saved now) :
    Function.update (Function.update now Stream.stderr.number (some saved.stderr))
      copies.stderr none copies.stdout = some saved.stdout := by
  have notStream : copies.stdout ≠ Stream.stderr.number :=
    (saves.stream_ne_copy .stderr .stdout).symm
  rw [Function.update_of_ne saves.apart, Function.update_of_ne notStream]
  exact differs.kept .stdout

/-- The second copy is made with the first one in place. -/
theorem of_copies (isOpen : files Stream.stderr.number ≠ none)
    (stdoutFound : files Stream.stdout.number = some saved.stdout)
    (stdoutFree : files copies.stdout = none)
    (stderrFound : Function.update files copies.stdout (some saved.stdout) Stream.stderr.number =
      some saved.stderr)
    (stderrFree : Function.update files copies.stdout (some saved.stdout) copies.stderr = none) :
    Saves files copies saved := by
  have apart : copies.stdout ≠ copies.stderr := by
    intro same
    rw [← same, Function.update_self] at stderrFree
    cases stderrFree
  have stderrNotCopy : Stream.stderr.number ≠ copies.stdout := by
    intro same
    exact isOpen (same ▸ stdoutFree)
  rw [Function.update_of_ne stderrNotCopy] at stderrFound
  rw [Function.update_of_ne apart.symm] at stderrFree
  constructor
  · rintro (_ | _) <;> assumption
  · rintro (_ | _) <;> assumption
  · exact apart

/-- Putting the saved files back and freeing the copies, the last one first. -/
theorem put_back {now : OpenFiles} (saves : Saves files copies saved)
    (differs : Differs files copies saved now) :
    update (update (update (update now Stream.stderr.number (some saved.stderr))
      copies.stderr none) Stream.stdout.number (some saved.stdout)) copies.stdout none = files := by
  have streamsApart : Stream.stdout.number ≠ Stream.stderr.number := by decide
  funext number
  simp only [Function.update_apply]
  split
  · rename_i same
    exact same ▸ (saves.isFree .stdout).symm
  · split
    · rename_i same
      exact same ▸ (saves.found .stdout).symm
    · split
      · rename_i same
        exact same ▸ (saves.isFree .stderr).symm
      · split
        · rename_i same
          exact same ▸ (saves.found .stderr).symm
        · apply differs.others number
          · rintro (_ | _) <;> assumption
          · rintro (_ | _) <;> assumption

end Saves

namespace Ensures

/-- Restoring both streams undoes what has happened to them since they were saved. -/
theorem restore_both {copies : PerStream Nat} {saved : PerStream OpenFile} {now : OpenFiles}
    (saves : Saves files copies saved) (differs : Saves.Differs files copies saved now)
    {α : Type} (result : α) :
    Ensures (Host.Shows now threads)
      (do discard (Scope.restore { stream := .stderr, saved := some copies.stderr })
          discard (Scope.restore { stream := .stdout, saved := some copies.stdout })
          return result)
      fun _ => Host.Shows files threads := by
  refine (restore .stderr (differs.kept .stderr)).discarded.bind fun _ => ?_
  refine (restore .stdout (differs.stdout_kept saves)).discarded.bind fun _ => ?_
  exact value fun host shows => saves.put_back differs ▸ shows

/-- Both streams are saved and point at the writing ends of the pipes. -/
theorem redirectBoth {writers : PerStream Nat} {ends : PerStream OpenFile}
    (writing : ∀ stream, files (writers.get stream) = some (ends.get stream))
    (apart : writers.stderr ≠ Stream.stdout.number)
    (taken : ∀ stream : Stream, files stream.number ≠ none) :
    Ensures (Host.Shows files threads) (Capture.redirectBoth writers)
      (Attempt files threads fun scopes host => ∃ copies saved,
        scopes =
          { stdout := { stream := .stdout, saved := some copies.stdout }
            stderr := { stream := .stderr, saved := some copies.stderr } } ∧
          Saves files copies saved ∧
          host.Shows (Saves.diverted files copies saved ends) threads) := by
  refine (save .stdout).bind fun first => ?_
  cases first with
  | error error => exact value fun _ shows => shows
  | ok stdout =>
      rintro host ⟨stdoutCopy, stdoutFile, rfl, stdoutFound, stdoutFree, shows⟩
      refine (save .stderr).bind (fun second => ?_) host shows
      cases second with
      | error error =>
          exact (restore_saved .stdout stdoutFound stdoutFree).discarded.bind fun _ =>
            value fun _ shows => shows
      | ok stderr =>
          rintro host ⟨stderrCopy, stderrFile, rfl, stderrFound, stderrFree, shows⟩
          let copies : PerStream Nat := { stdout := stdoutCopy, stderr := stderrCopy }
          let saved : PerStream OpenFile := { stdout := stdoutFile, stderr := stderrFile }
          have saves : Saves files copies saved :=
            .of_copies (taken .stderr) stdoutFound stdoutFree stderrFound stderrFree
          have writes (stream : Stream) :
              Saves.copied files copies saved (writers.get stream) = some (ends.get stream) := by
            rw [saves.copied_of_open (by simp [writing stream]), writing stream]
          refine (redirect _ _).bind (fun first => ?_) host shows
          cases first with
          | error error => exact restore_both saves saves.differs_copied _
          | ok done =>
              rintro host ⟨stdoutEnd, stdoutKnown, shows⟩
              have sameStdout : some (ends.get .stdout) = some stdoutEnd :=
                (writes .stdout).symm.trans stdoutKnown
              cases sameStdout
              refine (redirect _ _).bind (fun second => ?_) host shows
              cases second with
              | error error =>
                  exact restore_both saves (saves.differs_copied.update saves .stdout _) _
              | ok done =>
                  rintro host ⟨stderrEnd, stderrKnown, shows⟩
                  have sameStderr : some (ends.get .stderr) = some stderrEnd := by
                    rw [← writes .stderr, ← stderrKnown]
                    exact (Function.update_of_ne apart _ _).symm
                  cases sameStderr
                  exact ⟨copies, saved, rfl, saves, shows⟩

end Ensures

/-! ## Starting and stopping -/

namespace Wiring

/-- How the open files differ while a wiring is in place: its numbers were free
and are taken, the streams point elsewhere, and the copy of a stream that was
open has its file. -/
structure Connects (wiring : Wiring) (before after : OpenFiles) : Prop where
  apart : wiring.Apart
  isFree : ∀ number ∈ wiring.numbers, before number = none
  taken : ∀ number ∈ wiring.numbers, after number ≠ none
  others : ∀ number, number ∉ wiring.numbers → (∀ stream : Stream, number ≠ stream.number) →
    after number = before number
  streams : ∀ stream : Stream, after stream.number ≠ none ∧
    (stream.number ∉ wiring.numbers → before stream.number ≠ none ∧
      after (wiring.copies.get stream) = before stream.number)

theorem mem_numbers {wiring : Wiring} {number : Nat} :
    number ∈ wiring.numbers ↔ ∃ stream, number = wiring.sources.get stream ∨
      number = wiring.writers.get stream ∨ number = wiring.copies.get stream := by
  simp only [numbers, List.mem_cons, List.not_mem_nil, or_false]
  constructor
  · rintro (same | same | same | same | same | same)
    · exact ⟨.stdout, .inl same⟩
    · exact ⟨.stdout, .inr (.inl same)⟩
    · exact ⟨.stderr, .inl same⟩
    · exact ⟨.stderr, .inr (.inl same)⟩
    · exact ⟨.stdout, .inr (.inr same)⟩
    · exact ⟨.stderr, .inr (.inr same)⟩
  · rintro ⟨_ | _, same | same | same⟩ <;> simp [same, PerStream.get]

theorem released_mem {wiring : Wiring} {number : Nat} (member : number ∈ wiring.numbers)
    (files : OpenFiles) : wiring.released files number = none :=
  if_pos member

theorem released_stream {wiring : Wiring} {stream : Stream}
    (notMember : stream.number ∉ wiring.numbers) (files : OpenFiles) :
    wiring.released files stream.number = files (wiring.copies.get stream) := by
  rw [released, if_neg notMember]
  cases stream <;> rfl

theorem released_other {wiring : Wiring} {number : Nat} (notMember : number ∉ wiring.numbers)
    (notStream : ∀ stream : Stream, number ≠ stream.number) (files : OpenFiles) :
    wiring.released files number = files number := by
  rw [released, if_neg notMember, if_neg (notStream .stdout), if_neg (notStream .stderr)]

/-- A number is one of the wiring, or a stream, or neither. -/
theorem number_cases (wiring : Wiring) (number : Nat) :
    number ∈ wiring.numbers ∨
      (number ∉ wiring.numbers ∧ ∃ stream : Stream, number = stream.number) ∨
      (number ∉ wiring.numbers ∧ ∀ stream : Stream, number ≠ stream.number) := by
  by_cases member : number ∈ wiring.numbers
  · exact .inl member
  · by_cases isStream : ∃ stream : Stream, number = stream.number
    · exact .inr (.inl ⟨member, isStream⟩)
    · exact .inr (.inr ⟨member, fun stream same => isStream ⟨stream, same⟩⟩)

/-- Releasing a wiring at once undoes it. -/
theorem Connects.released {wiring : Wiring} {before after : OpenFiles}
    (connects : wiring.Connects before after) : wiring.released after = before := by
  funext number
  rcases wiring.number_cases number with
    member | ⟨notMember, stream, rfl⟩ | ⟨notMember, notStream⟩
  · rw [released_mem member, connects.isFree number member]
  · rw [released_stream notMember, ((connects.streams stream).2 notMember).2]
  · rw [released_other notMember notStream, connects.others number notMember notStream]

/-- The open files with two new pipes, whose reading ends refer to `starts` and
whose writing ends refer to `ends`. -/
structure Piped (sources writers : PerStream Nat) (starts ends : PerStream OpenFile)
    (before after : OpenFiles) : Prop where
  isFree : ∀ stream, before (sources.get stream) = none ∧ before (writers.get stream) = none
  reading : ∀ stream, after (sources.get stream) = some (starts.get stream)
  writing : ∀ stream, after (writers.get stream) = some (ends.get stream)
  others : ∀ number, (∀ stream, number ≠ sources.get stream) →
    (∀ stream, number ≠ writers.get stream) → after number = before number
  apart : writers.stderr ≠ Stream.stdout.number
  streams : ∀ stream : Stream, after stream.number ≠ none

theorem Piped.kept {sources writers : PerStream Nat} {starts ends : PerStream OpenFile}
    {before after : OpenFiles} (piped : Piped sources writers starts ends before after)
    {number : Nat} (used : before number ≠ none) : after number = before number := by
  apply piped.others
  · rintro stream rfl
    exact used (piped.isFree stream).1
  · rintro stream rfl
    exact used (piped.isFree stream).2

theorem twoPipes {stdoutPipe stderrPipe : Nat × Nat} (stdoutNew : NewPipe files stdoutPipe)
    (stdoutReader stdoutWriter : OpenFile)
    (stderrNew : NewPipe (files.withPipe stdoutPipe stdoutReader stdoutWriter) stderrPipe)
    (stderrReader stderrWriter : OpenFile) :
    Piped { stdout := stdoutPipe.1, stderr := stderrPipe.1 }
      { stdout := stdoutPipe.2, stderr := stderrPipe.2 }
      { stdout := stdoutReader, stderr := stderrReader }
      { stdout := stdoutWriter, stderr := stderrWriter } files
      ((files.withPipe stdoutPipe stdoutReader stdoutWriter).withPipe stderrPipe stderrReader
        stderrWriter) := by
  obtain ⟨stdoutLarger, stdoutReaderFree, stdoutWriterFree, stdoutBelow⟩ := stdoutNew
  obtain ⟨stderrLarger, stderrReaderFree, stderrWriterFree, stderrBelow⟩ := stderrNew
  simp only [OpenFiles.withPipe, Function.update_apply] at *
  -- all numbers up to the first writing end are taken, so the second pipe is above it
  have later : stdoutPipe.2 < stderrPipe.1 := by
    have below := stdoutBelow stderrPipe.1
    grind
  refine
    { isFree := ?_
      reading := ?_
      writing := ?_
      others := ?_
      apart := ?_
      streams := ?_ }
  · rintro (_ | _) <;> grind [PerStream.get]
  · rintro (_ | _) <;> grind [PerStream.get]
  · rintro (_ | _) <;> grind [PerStream.get]
  · intro number notSource notWriter
    have notStdoutSource := notSource .stdout
    have notStderrSource := notSource .stderr
    have notStdoutWriter := notWriter .stdout
    have notStderrWriter := notWriter .stderr
    grind [PerStream.get]
  · grind [Stream.number]
  · intro stream
    have low : stream.number ≤ 2 := by cases stream <;> decide
    have below := stderrBelow stream.number
    grind

theorem Piped.taken {sources writers : PerStream Nat} {starts ends : PerStream OpenFile}
    {piped : OpenFiles} (pipes : Piped sources writers starts ends files piped) (stream : Stream) :
    piped (sources.get stream) ≠ none := by
  simp [pipes.reading stream]

theorem connects_of_saves {sources writers copies : PerStream Nat}
    {starts saved ends : PerStream OpenFile} {piped : OpenFiles}
    (pipes : Piped sources writers starts ends files piped) (saves : Saves piped copies saved) :
    Connects { sources, writers, copies } files (Saves.diverted piped copies saved ends) := by
  have differs : Saves.Differs piped copies saved (Saves.diverted piped copies saved ends) :=
    (saves.differs_copied.update saves .stdout _).update saves .stderr _
  have open_of_open {number : Nat} (used : piped number ≠ none) :
      Saves.diverted piped copies saved ends number ≠ none := by
    simp only [Saves.diverted, Function.update_apply, saves.copied_of_open used]
    split
    · simp
    · split
      · simp
      · exact used
  have new (stream : Stream) : files (copies.get stream) = none := by
    rw [← pipes.others (copies.get stream), saves.isFree]
    · intro other same
      exact pipes.taken other (same ▸ saves.isFree stream)
    · intro other same
      have written := pipes.writing other
      rw [← same, saves.isFree stream] at written
      cases written
  refine
    { apart := ⟨saves.apart, fun stream other => (saves.stream_ne_copy other stream).symm⟩
      isFree := ?_
      taken := ?_
      others := ?_
      streams := ?_ }
  · intro number member
    obtain ⟨stream, rfl | rfl | rfl⟩ := mem_numbers.mp member
    · exact (pipes.isFree stream).1
    · exact (pipes.isFree stream).2
    · exact new stream
  · intro number member
    obtain ⟨stream, rfl | rfl | rfl⟩ := mem_numbers.mp member
    · exact open_of_open (pipes.taken stream)
    · exact open_of_open (by simp [pipes.writing stream])
    · rw [differs.kept stream]
      simp
  · intro number notMember notStream
    rw [mem_numbers] at notMember
    push Not at notMember
    rw [differs.others number notStream fun stream => (notMember stream).2.2,
      pipes.others number (fun stream => (notMember stream).1) fun stream => (notMember stream).2.1]
  · intro stream
    refine ⟨open_of_open (by simp [saves.found stream]), fun notMember => ?_⟩
    rw [mem_numbers] at notMember
    push Not at notMember
    have same := pipes.others stream.number (fun other => (notMember other).1)
      fun other => (notMember other).2.1
    rw [← same, differs.kept stream, saves.found stream]
    simp

/-- The streams write to two different pipes, and the wiring has the ends of these,
unless they were put on the numbers of closed streams. -/
structure Diverts (wiring : Wiring) (pipes : PerStream Nat) (before after : OpenFiles) :
    Prop where
  apart : pipes.stdout ≠ pipes.stderr
  streams : ∀ stream : Stream, after stream.number = some (.pipeWriter (pipes.get stream))
  ends : (∀ stream : Stream, before stream.number ≠ none) → ∀ stream,
    after (wiring.sources.get stream) = some (.pipeReader (pipes.get stream)) ∧
      after (wiring.writers.get stream) = some (.pipeWriter (pipes.get stream))

theorem diverts_of_saves {sources writers copies : PerStream Nat} (pipes : PerStream Nat)
    {saved : PerStream OpenFile} {piped : OpenFiles} (apart : pipes.stdout ≠ pipes.stderr)
    (piping : Piped sources writers (pipes.map .pipeReader) (pipes.map .pipeWriter) files piped)
    (saves : Saves piped copies saved) :
    Diverts { sources, writers, copies } pipes files
      (Saves.diverted piped copies saved (pipes.map .pipeWriter)) := by
  have kept {number : Nat} (used : piped number ≠ none)
      (notStream : ∀ stream : Stream, number ≠ stream.number) :
      Saves.diverted piped copies saved (pipes.map .pipeWriter) number = piped number := by
    rw [Saves.diverted, Function.update_of_ne (notStream .stderr),
      Function.update_of_ne (notStream .stdout), saves.copied_of_open used]
  constructor
  · exact apart
  · intro stream
    cases stream with
    | stdout =>
        have streamsApart : Stream.stdout.number ≠ Stream.stderr.number := by decide
        rw [Saves.diverted, Function.update_of_ne streamsApart, Function.update_self]
        rfl
    | stderr => exact Function.update_self _ _ _
  · intro isOpen stream
    obtain ⟨sourceFree, writerFree⟩ := piping.isFree stream
    have reading := piping.reading stream
    have writing := piping.writing stream
    constructor
    · rw [kept (piping.taken stream) fun other same => isOpen other (same ▸ sourceFree), reading]
      cases stream <;> rfl
    · rw [kept (by simp [writing]) fun other same => isOpen other (same ▸ writerFree), writing]
      cases stream <;> rfl

end Wiring

namespace Ensures

theorem startTap (tap : Tap) (nonblocking : Bool) :
    Ensures (Host.Shows files threads) (Capture.startTap tap nonblocking)
      (Attempt files threads fun thread => Host.Shows files ((thread, tap.source) :: threads)) := by
  cases nonblocking with
  | false => exact startReader tap.source
  | true =>
      refine (setPolling tap.source).bind fun switched => ?_
      cases switched with
      | error error => exact value fun _ shows => shows
      | ok done => exact startReader tap.source

/-- What starting a capture leads to: nothing has changed after a failure;
otherwise a wiring is in place, and a thread reads from each pipe. -/
def Started (files : OpenFiles) (threads : List (Nat × Nat)) :
    Except CaptureError Unit × Capture → Host → Prop
  | (.error _, capture), host => capture.taps = none ∧ host.Shows files threads
  | (.ok (), capture), host => ∃ wiring : Wiring, ∃ readers pipes : PerStream Nat, ∃ now,
      capture.taps = some (wiring.taps (readers.map some)) ∧ wiring.Connects files now ∧
        wiring.Diverts pipes files now ∧ host.Shows now
          ((readers.stderr, wiring.sources.stderr) ::
            (readers.stdout, wiring.sources.stdout) :: threads)

theorem startReaders (capture : Capture) {wiring : Wiring} {pipes : PerStream Nat}
    {before : OpenFiles} (connects : wiring.Connects before files)
    (diverts : wiring.Diverts pipes before files) :
    Ensures (Host.Shows files threads)
      (capture.startReaders (wiring.taps { stdout := none, stderr := none }))
      (Started before threads) := by
  have saved (stream : Stream) : files (wiring.copies.get stream) ≠ none :=
    connects.taken _ (Wiring.mem_numbers.mpr ⟨stream, .inr (.inr rfl)⟩)
  have stopped (readers : PerStream (Option Nat)) (started : List (Nat × Nat))
      (joined : Tap.joined readers.stderr (Tap.joined readers.stdout started) ⊆ threads)
      (error : CaptureError) : Ensures (Host.Shows files started)
      (do let stopped ← ({ capture with taps := some (wiring.taps readers) } : Capture).stop
          return (Except.error error, stopped))
      (Started before threads) := by
    refine (stop rfl connects.apart saved).bind fun stopped => ?_
    rintro host ⟨inactive, shows⟩
    rw [connects.released] at shows
    exact ⟨inactive, shows.files, List.Subset.trans shows.threads joined⟩
  refine (startTap _ _).bind fun first => ?_
  cases first with
  | error error =>
      exact stopped { stdout := none, stderr := none } threads (List.Subset.refl _) _
  | ok first =>
      refine (startTap _ _).bind fun second => ?_
      cases second with
      | error error =>
          refine stopped { stdout := some first, stderr := none } _ ?_ _
          exact Tap.joined_started first _ threads
      | ok second =>
          exact value fun host shows =>
            ⟨wiring, { stdout := first, stderr := second }, pipes, files, rfl, connects, diverts,
              shows⟩

theorem closePipe (ends : Nat × Nat) :
    Ensures (Host.Shows files threads) (Capture.closePipe ends) fun _ =>
      Host.Shows (update (update files ends.1 none) ends.2 none) threads :=
  (close ends.1).bind fun _ => close ends.2

/-- Closing a new pipe undoes it. -/
theorem closePipe_new {ends : Nat × Nat} (new : NewPipe files ends) (reader writer : OpenFile) :
    Ensures (Host.Shows (files.withPipe ends reader writer) threads) (Capture.closePipe ends)
      fun _ => Host.Shows files threads := by
  have undone : update (update (files.withPipe ends reader writer) ends.1 none) ends.2 none =
      files := by
    rw [OpenFiles.withPipe, Function.update_comm (Nat.ne_of_gt new.larger), Function.update_idem,
      closed_again new.readerFree, ← new.writerFree, Function.update_eq_self]
  have closed : Ensures (Host.Shows (files.withPipe ends reader writer) threads)
      (Capture.closePipe ends) _ := closePipe ends
  rwa [undone] at closed

/-- Starting a capture that is not active. -/
theorem start {capture : Capture} (inactive : capture.taps = none) :
    Ensures (Host.Shows files threads) capture.start (Started files threads) := by
  have idle : capture.isActive = false := by simp [Capture.isActive, inactive]
  unfold Capture.start
  rw [idle]
  intro host shows
  refine (pipe 0).bind (fun first => ?_) host ⟨Nat.zero_le _, shows⟩
  cases first with
  | error error => exact value fun _ shows => ⟨inactive, shows⟩
  | ok stdoutPipe =>
      rintro host ⟨stdoutNew, stdoutName, -, stdoutKnown, shows⟩
      refine (pipe (stdoutName + 1)).bind (fun second => ?_) host ⟨stdoutKnown, shows⟩
      cases second with
      | error error =>
          exact (closePipe_new stdoutNew _ _).bind fun _ => value fun _ shows => ⟨inactive, shows⟩
      | ok stderrPipe =>
          rintro host ⟨stderrNew, stderrName, later, -, shows⟩
          let pipes : PerStream Nat := { stdout := stdoutName, stderr := stderrName }
          have apart : pipes.stdout ≠ pipes.stderr := Nat.ne_of_lt later
          have piping := Wiring.twoPipes stdoutNew (.pipeReader stdoutName)
            (.pipeWriter stdoutName) stderrNew (.pipeReader stderrName) (.pipeWriter stderrName)
          refine (redirectBoth piping.writing piping.apart piping.streams).bind
            (fun redirected => ?_) host shows
          cases redirected with
          | error error =>
              refine (closePipe_new stderrNew _ _).bind fun _ => ?_
              exact (closePipe_new stdoutNew _ _).bind fun _ =>
                value fun _ shows => ⟨inactive, shows⟩
          | ok scopes =>
              rintro host ⟨copies, saved, rfl, saves, shows⟩
              exact startReaders capture (Wiring.connects_of_saves piping saves)
                (Wiring.diverts_of_saves pipes apart piping saves) host shows

end Ensures

end CompileDriver
