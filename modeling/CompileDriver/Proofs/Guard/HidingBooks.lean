import CompileDriver.Host.Start
import CompileDriver.Proofs.Guard.HidingLife

/-!
# What has passed until now

At any time either no stream is hidden and everything is open that was open in the
beginning, or one stream has been hidden since a suppressor was engaged.  In both cases the
books tell what has passed to the original targets.  Writing and moving readers leave
things as they are, restoring shows the stream again, and nothing that was written to it
in the meantime passes.
-/

namespace CompileDriver

/-- Openings are numbered, and the next number is a new one. -/
def Host.NumbersOpenings (host : Host) : Prop :=
  ∀ number opening, host.opened number = some (.discard opening) → opening < host.openings

theorem Host.numbersOpenings_start (directory temporary executableDirectory : Place) :
    (start directory temporary executableDirectory).NumbersOpenings := by
  intro number opening isDiscard
  rcases number with _ | _ | _ | number <;> cases isDiscard

namespace Suppressor

/-- What is true of the situation that a life begins with. -/
structure Beginning (first : Situation) (files : PerStream OpenFile) : Prop where
  unused : first.suppressor = none
  found : ∀ stream : Stream, first.host.opened stream.number = some (files.get stream)
  numbers : first.host.NumbersOpenings

/-! ## While nothing is hidden -/

/-- No stream is hidden, and everything is open that was open in the beginning.  Since then
the process has written `visible` to the streams while they were not hidden; this has passed
through the streams that take what is written. -/
structure Shown (first : Situation) (files : PerStream OpenFile) (visible : Stream → Bytes)
    (now : Situation) : Prop where
  stream : now.stream = first.stream
  sound : now.IsSound
  idle : now.state ≠ some .engaged
  shows : now.host.Shows first.host.opened first.host.threads
  later : first.host.openings ≤ now.host.openings
  books : first.host.Accounts first.host.opened.Flows files first.host.heldBack
    (fun stream => [⟨.process, visible stream⟩]) now.host

variable {first now : Situation} {files : PerStream OpenFile} {visible : Stream → Bytes}

theorem Beginning.shown (beginning : Beginning first files) :
    Shown first files (fun _ => []) first where
  stream := rfl
  sound := Situation.isSound_of_unused beginning.unused
  idle := by simp [Situation.state, beginning.unused]
  shows := ⟨rfl, List.Subset.refl _⟩
  later := Nat.le_refl _
  books := .initially first.host.opened.Flows first.host files

namespace Shown

theorem found (shown : Shown first files visible now) (beginning : Beginning first files)
    (stream : Stream) : now.host.opened stream.number = some (files.get stream) :=
  shown.shows.files ▸ beginning.found stream

theorem takes (shown : Shown first files visible now) (stream : Stream)
    (takes : first.host.opened.Flows stream) : now.host.opened.Takes stream.number :=
  shown.shows.files ▸ takes

/-- A suppressor that has nothing to restore stays what it is. -/
theorem restore (shown : Shown first files visible now) {suppressor : Suppressor}
    (there : now.suppressor = some suppressor) :
    suppressor.restore now.host = (suppressor, now.host) := by
  apply restore_of_unsaved
  have idle : suppressor.state ≠ .engaged := by
    intro engaged
    exact shown.idle (by simp [Situation.state, there, engaged])
  simpa using mt (shown.sound suppressor there).mp idle

/-- Nothing has been hidden in the meantime when everything is open that was open. -/
theorem reached (shown : Shown first files visible now) {suppressor : Option Suppressor}
    {host : Host} {more : Stream → Bytes}
    (sound : ∀ made, suppressor = some made → made.IsSound)
    (idle : suppressor.map Suppressor.state ≠ some .engaged)
    (shows : host.Shows first.host.opened first.host.threads)
    (later : now.host.openings ≤ host.openings)
    (books : first.host.Accounts first.host.opened.Flows files first.host.heldBack
      (fun stream => [⟨.process, visible stream ++ more stream⟩]) host) :
    Shown first files (fun stream => visible stream ++ more stream)
      { now with suppressor, host } where
  stream := shown.stream
  sound := sound
  idle := idle
  shows := shows
  later := Nat.le_trans shown.later later
  books := books

theorem unwritten (shown : Shown first files visible now) :
    Shown first files (fun stream => visible stream ++ []) now := by
  simpa only [List.append_nil] using shown

theorem dropped (shown : Shown first files visible now) :
    Shown first files (fun stream => visible stream ++ []) { now with suppressor := none } :=
  shown.reached (by simp) (by simp) shown.shows (Nat.le_refl _) shown.unwritten.books

theorem write (shown : Shown first files visible now) (beginning : Beginning first files)
    (stream : Stream) (bytes : Bytes) :
    Shown first files (fun other => visible other ++ stream.only bytes other)
      { now with host := (stream.write bytes now.host).2 } := by
  have utterances := stream.write_utterances bytes now.host
  refine shown.reached shown.sound shown.idle (shown.shows.still utterances.still)
    utterances.steps.openings_le ?_
  exact shown.books.write (shown.found beginning) shown.takes stream bytes

theorem playRound (shown : Shown first files visible now) (round : Round) :
    Shown first files (fun stream => visible stream ++ [])
      { now with host := now.host.playRound round } := by
  have ran := Host.readersRan_playRound now.host round
  refine shown.reached shown.sound shown.idle (shown.shows.still ran.still)
    (Nat.le_of_eq (by rw [ran.rest])) ?_
  exact shown.unwritten.books.mute (.readersRan ran)

end Shown

/-! ## While a stream is hidden -/

/-- What the process has written while the stream of the first situation was not hidden has
passed through the streams that take what is written: a part of it before `started`, when
nothing was held back of the stream, and the rest of it since then, while the stream has been
hidden. -/
def VeiledBooks (first : Situation) (files : PerStream OpenFile) (opening : Nat)
    (visible : Stream → Bytes) (host : Host) : Prop :=
  ∃ (started : Host) (earlier since : Stream → Bytes),
    first.host.Accounts first.host.opened.Flows files first.host.heldBack
        (fun stream => [⟨.process, earlier stream⟩]) started ∧
      (first.host.opened.Flows first.stream → started.heldBack first.stream = []) ∧
      Host.Ledger first.host.opened.Flows
        (started.Veils first.host.opened.Flows files first.stream opening) started.heldBack
        (fun stream => [⟨.process, since stream⟩]) host ∧
      ∀ stream, visible stream =
        earlier stream ++ if stream = first.stream then [] else since stream

namespace VeiledBooks

variable {opening : Nat} {host : Host}

/-- When a stream has just been hidden, nothing has been written since. -/
theorem begin (accounts : first.host.Accounts first.host.opened.Flows files first.host.heldBack
      (fun stream => [⟨.process, visible stream⟩]) host)
    (empty : first.host.opened.Flows first.stream → host.heldBack first.stream = [])
    (found : ∀ stream : Stream, host.opened stream.number =
      some ((files.set first.stream (.discard opening)).get stream))
    (takes : ∀ stream, first.host.opened.Flows stream → host.opened.Takes stream.number) :
    VeiledBooks first files opening visible host := by
  refine ⟨host, visible, fun _ => [], accounts, empty, ⟨fun _ => [], ⟨?_, ?_⟩, ?_⟩, by simp⟩
  · exact ⟨found, takes, List.suffix_refl _, fun _ _ => Host.passedSince_self ..⟩
  · exact Host.passedSince_self ..
  · exact fun stream _ => .unwritten host stream

theorem write (books : VeiledBooks first files opening visible host)
    (different : files.get first.stream ≠ .discard opening) (stream : Stream) (bytes : Bytes) :
    VeiledBooks first files opening
      (fun other => visible other ++ if other = first.stream then [] else stream.only bytes other)
      (stream.write bytes host).2 := by
  obtain ⟨started, earlier, since, accounts, empty, ledger, total⟩ := books
  obtain ⟨taken, veils, arrives⟩ :=
    (Host.veils_sink first.host.opened.Flows started different).writeStream stream bytes host ledger
  refine ⟨started, earlier, fun other => since other ++ stream.only bytes other, accounts, empty,
    ⟨taken, veils, fun other takes => (arrives other takes).merged⟩, fun other => ?_⟩
  simp only [total]
  split <;> simp

theorem mute {after : Host} (books : VeiledBooks first files opening visible host)
    (mute : host.Mute after) (still : Host.Still host after) :
    VeiledBooks first files opening visible after := by
  obtain ⟨started, earlier, since, accounts, empty, ⟨taken, ⟨passing, nothing⟩, arrives⟩, total⟩ :=
    books
  refine ⟨started, earlier, since, accounts, empty, ⟨taken, ⟨?_, ?_⟩, ?_⟩, total⟩
  · refine ⟨still.1 ▸ passing.found, still.1 ▸ passing.takes, passing.grown.trans mute.grown, ?_⟩
    exact fun stream takes =>
      (mute.passedSince passing.grown stream _).trans (passing.passed stream takes)
  · exact (mute.passedSince passing.grown _ _).trans nothing
  · rw [mute.heldBack]
    exact arrives

theorem grown (books : VeiledBooks first files opening visible host) :
    first.host.journal <:+ host.journal := by
  obtain ⟨started, earlier, since, accounts, empty, ⟨taken, ⟨passing, -⟩, -⟩, total⟩ := books
  exact accounts.grown.trans passing.grown

/-- What has passed until now. -/
theorem arrives (books : VeiledBooks first files opening visible host) {stream : Stream}
    (takes : first.host.opened.Flows stream) :
    stream.Arrives (first.host.heldBack stream) [⟨.process, visible stream⟩]
      (host.passedSince first.host stream.number (files.get stream))
      (if stream = first.stream then [] else host.heldBack stream) := by
  obtain ⟨started, earlier, since, accounts, empty, ledger, total⟩ := books
  have arrived := accounts.veiled empty ledger takes
  rwa [← total] at arrived

/-- Pointing the stream back passes on nothing of what was written to it meanwhile. -/
theorem restore (books : VeiledBooks first files opening visible host)
    (different : files.get first.stream ≠ .discard opening) (copy : Nat) :
    first.host.Accounts first.host.opened.Flows files first.host.heldBack
      (fun stream => [⟨.process, visible stream⟩])
      (Scope.restore { stream := first.stream, saved := some copy } host).2 := by
  obtain ⟨started, earlier, since, accounts, empty, ledger, total⟩ := books
  obtain ⟨flushedLedger, flushedEmpty⟩ :=
    (Host.veils_sink first.host.opened.Flows started different).flush first.stream host ledger
  have flushed : VeiledBooks first files opening visible (first.stream.flush host).2 :=
    ⟨started, earlier, since, accounts, empty, flushedLedger, total⟩
  have mute := Scope.restore_mute first.stream copy host
  refine ⟨flushed.grown.trans mute.grown, fun stream takes => ?_⟩
  have arrived := flushed.arrives takes
  rw [mute.passedSince flushed.grown, mute.heldBack]
  by_cases same : stream = first.stream
  · have nothing : (first.stream.flush host).2.heldBack stream = [] := by
      rw [same]
      exact flushedEmpty (same ▸ takes)
    rw [nothing]
    rwa [if_pos same] at arrived
  · rwa [if_neg same] at arrived

end VeiledBooks

/-- The stream of the first situation is hidden; its file is saved under `copy`.  Since the
beginning the process has written `visible` to the streams while they were not hidden; this
has passed through the streams that take what is written. -/
structure Hidden (first : Situation) (files : PerStream OpenFile) (visible : Stream → Bytes)
    (copy opening : Nat) (now : Situation) : Prop where
  stream : now.stream = first.stream
  suppressor : now.suppressor = some (.hiding first.stream copy)
  isFree : first.host.opened copy = none
  different : files.get first.stream ≠ .discard opening
  shows : now.host.Shows (first.host.opened.veiled first.stream copy opening) first.host.threads
  later : first.host.openings ≤ now.host.openings
  books : VeiledBooks first files opening visible now.host

namespace Hidden

variable {copy opening : Nat}

theorem state (hidden : Hidden first files visible copy opening now) :
    now.state = some .engaged := by
  rw [Situation.state, hidden.suppressor]
  rfl

theorem write (hidden : Hidden first files visible copy opening now) (stream : Stream)
    (bytes : Bytes) :
    Hidden first files
      (fun other => visible other ++ if other = first.stream then [] else stream.only bytes other)
      copy opening { now with host := (stream.write bytes now.host).2 } where
  stream := hidden.stream
  suppressor := hidden.suppressor
  isFree := hidden.isFree
  different := hidden.different
  shows := hidden.shows.still (stream.write_utterances bytes now.host).still
  later := Nat.le_trans hidden.later (stream.write_utterances bytes now.host).steps.openings_le
  books := hidden.books.write hidden.different stream bytes

theorem playRound (hidden : Hidden first files visible copy opening now) (round : Round) :
    Hidden first files visible copy opening
      { now with host := now.host.playRound round } := by
  have ran := Host.readersRan_playRound now.host round
  constructor
  · exact hidden.stream
  · exact hidden.suppressor
  · exact hidden.isFree
  · exact hidden.different
  · exact hidden.shows.still ran.still
  · exact Nat.le_trans hidden.later (Nat.le_of_eq (by rw [ran.rest]))
  · exact hidden.books.mute (.readersRan ran) ran.still

/-- Restoring shows the stream again. -/
theorem restore (hidden : Hidden first files visible copy opening now)
    (beginning : Beginning first files) {suppressor : Option Suppressor}
    (sound : ∀ made, suppressor = some made → made.IsSound)
    (idle : suppressor.map Suppressor.state ≠ some .engaged) :
    Shown first files visible
      { now with
        suppressor
        host := (Scope.restore { stream := first.stream, saved := some copy } now.host).2 } := by
  have found := beginning.found first.stream
  have isOpen : first.host.opened first.stream.number ≠ none := by simp [found]
  obtain ⟨saved, undone⟩ := OpenFiles.unveiled isOpen hidden.isFree opening
  constructor
  · exact hidden.stream
  · exact sound
  · exact idle
  · have shows := Ensures.restore first.stream (saved.trans found) now.host hidden.shows
    rwa [← found, undone] at shows
  · have own : Scope.Own (fun _ => False) { stream := first.stream, saved := some copy } :=
      fun _ _ => not_false
    have steps := (Spares.restore (fun _ => not_false) own now.host fun _ => False.elim).1
    exact Nat.le_trans hidden.later (Host.Steps.openings_le steps)
  · exact hidden.books.restore hidden.different copy

end Hidden

end Suppressor

end CompileDriver
