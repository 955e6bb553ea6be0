import CompileDriver.Host.Start
import CompileDriver.Proofs.Guard.Restore
import CompileDriver.Proofs.Guard.Rig

/-!
# Writers meet readers

While a capture is started, used and stopped, other threads write to the streams and the reader
threads move, between any two of its steps.  In every state on the way a stream that is pointed
at a pipe of the capture finds that the process holds the reading end, however the capture
fails and whatever becomes of its readers.
-/

namespace CompileDriver

open Function (update)
open Routine (Keeps call)
open Rig (Covers)

/-- What holds after an attempt that can fail. -/
def Tried {ε α : Type} (failed : OpenFiles → Prop) (succeeded : α → OpenFiles → Prop) :
    Except ε α → OpenFiles → Prop
  | .error _ => failed
  | .ok value => succeeded value

theorem Attempt.opened_eq {ε α : Type} {files : OpenFiles} {before : List (Nat × Nat)}
    {outcome : Except ε α} {host : Host} {threads : α → List (Nat × Nat)}
    (attempt : Attempt files before (fun value => Host.Shows files (threads value)) outcome host) :
    host.opened = files := by
  cases outcome with
  | error error => exact Host.Shows.files attempt
  | ok value => exact Host.Shows.files attempt

namespace Rig

/-! ## System calls -/

/-- The numbers of the ends of the pipe of a stream. -/
def ends (rig : Rig) (stream : Stream) : Nat × Nat :=
  (rig.number (.source stream), rig.number (.writer stream))

/-- The scope of a stream. -/
def scope (rig : Rig) (stream : Stream) : Scope :=
  { stream, saved := some (rig.number (.copy stream)) }

/-- What is held has the same numbers. -/
def Agrees (rig other : Rig) (held : List Slot) : Prop :=
  ∀ slot ∈ held, rig.number slot = other.number slot

theorem Covers.mono {held more : List Slot} {aimed fewer : List Stream} (covers : Covers held aimed)
    (heldStill : held ⊆ more) (aimedBefore : fewer ⊆ aimed) : Covers more fewer :=
  fun stream member =>
    ⟨heldStill (covers stream (aimedBefore member)).1,
      heldStill (covers stream (aimedBefore member)).2⟩

theorem Covers.without {held : List Slot} {aimed : List Stream} (covers : Covers held aimed)
    (stream : Stream) : Covers held (aimed.filter (· ≠ stream)) :=
  covers.mono (List.Subset.refl held) List.filter_sublist.subset

/-- The copy of a stream is not needed once the stream has been pointed back. -/
theorem Covers.restored {held : List Slot} {aimed : List Stream} (covers : Covers held aimed)
    (stream : Stream) :
    Covers (held.filter (· ≠ .copy stream)) (aimed.filter (· ≠ stream)) := by
  intro other member
  obtain ⟨source, saved⟩ := covers.without stream other member
  have different : other ≠ stream := by simpa using (List.mem_filter.mp member).2
  simp [source, saved, different]

section

variable {origin : OpenFiles} {rig : Rig} {held : List Slot} {aimed : List Stream}
  (covers : Covers held aimed)

include covers

theorem keeps_call {α : Type} {action : Action α}
    (still : ∀ host, (action host).2.opened = host.opened) :
    Keeps (Readable origin) (fun _ => rig.Stands origin held aimed)
      (rig.Stands origin held aimed) (call action) := by
  refine .call (fun _ stands => stands.readable covers)
    (fun _ _ stands => stands.readable covers) ?_
  intro host stands
  rwa [still]

/-- An attempt that changes nothing when it fails. -/
theorem keeps_attempt {ε α : Type} {action : Action (Except ε α)} {succeeded : α → OpenFiles → Prop}
    (readable : ∀ value files, succeeded value files → Readable origin files)
    (attempts : ∀ host : Host, rig.Stands origin held aimed host.opened →
      Attempt host.opened host.threads (fun value after => succeeded value after.opened)
        (action host).1 (action host).2) :
    Keeps (Readable origin) (Tried (rig.Stands origin held aimed) succeeded)
      (rig.Stands origin held aimed) (call action) := by
  refine .call (fun _ stands => stands.readable covers) (fun outcome files known => ?_) ?_
  · cases outcome with
    | error error => exact known.readable covers
    | ok value => exact readable value files known
  · intro host stands
    have attempted := attempts host stands
    cases outcome : (action host).1 with
    | error error =>
        rw [outcome] at attempted
        rw [attempted.files]
        exact stands
    | ok value =>
        rw [outcome] at attempted
        exact attempted

theorem keeps_flush (stream : Stream) :
    Keeps (Readable origin) (fun _ => rig.Stands origin held aimed)
      (rig.Stands origin held aimed) (call stream.flush) :=
  keeps_call covers fun host => (Routine.Interrupts.flush stream host).opened

variable (isOpen : ∀ stream : Stream, origin stream.number ≠ none)

include isOpen

theorem keeps_pipe (stream : Stream)
    (unheld : .source stream ∉ held ∧ .writer stream ∉ held) (unaimed : stream ∉ aimed) :
    Keeps (Readable origin)
      (Tried (rig.Stands origin held aimed) fun ends files => ∃ more : Rig,
        ends = more.ends stream ∧ more.Agrees rig held ∧
          more.Stands origin (.writer stream :: .source stream :: held) aimed files)
      (rig.Stands origin held aimed) (call SystemCall.pipe) := by
  have more : Covers (.writer stream :: .source stream :: held) aimed :=
    covers.mono (fun _ member => by simp [member]) (List.Subset.refl aimed)
  refine keeps_attempt covers (fun _ _ ⟨_, _, _, stands⟩ => stands.readable more)
    fun host stands => ?_
  refine (Ensures.pipe 0 host ⟨Nat.zero_le _, rfl, List.Subset.refl _⟩).weaken ?_
  rintro ends ⟨isNew, pipe, -, -, shows⟩
  refine ⟨((rig.withPipe stream pipe).take (.source stream) ends.1).take (.writer stream) ends.2,
    ?_, ?_, ?_⟩
  · simp [Rig.ends, take]
  · intro slot member
    have notSource : slot ≠ .source stream := fun same => unheld.1 (same ▸ member)
    have notWriter : slot ≠ .writer stream := fun same => unheld.2 (same ▸ member)
    simp [take, withPipe, notSource, notWriter]
  rw [shows.files]
  have reader : (rig.withPipe stream pipe).file origin (.source stream) =
      some (.pipeReader pipe) := by simp [file, withPipe]
  have source := (stands.withPipe pipe unheld unaimed).take isOpen unheld.1 isNew.readerFree reader
  refine source.take isOpen (by simpa using unheld.2) ?_ (by simp [file, take, withPipe])
  rw [Function.update_of_ne (Nat.ne_of_gt isNew.larger)]
  exact isNew.writerFree

theorem keeps_saving {stream : Stream} (unheld : .copy stream ∉ held) (unaimed : stream ∉ aimed) :
    Keeps (Readable origin)
      (Tried (rig.Stands origin held aimed) fun scope files => ∃ more : Rig,
        scope = more.scope stream ∧ more.Agrees rig held ∧
          more.Stands origin (.copy stream :: held) aimed files)
      (rig.Stands origin held aimed) (Scope.saving stream) := by
  have more : Covers (.copy stream :: held) aimed :=
    covers.mono (fun _ member => by simp [member]) (List.Subset.refl aimed)
  have duplicated : Keeps (Readable origin)
      (Tried (rig.Stands origin held aimed) fun copy =>
        (rig.take (.copy stream) copy).Stands origin (.copy stream :: held) aimed)
      (rig.Stands origin held aimed) (call (SystemCall.duplicate stream.number)) := by
    refine keeps_attempt covers (fun _ _ stands => stands.readable more) fun host stands => ?_
    refine (Ensures.duplicate stream.number host ⟨rfl, List.Subset.refl _⟩).weaken ?_
    rintro copy ⟨file, found, isFree, shows⟩
    rw [stands.streams, if_neg unaimed] at found
    rw [shows.files]
    exact stands.take isOpen unheld isFree found
  refine (keeps_flush covers stream).bind fun _ => duplicated.bind fun outcome => ?_
  cases outcome with
  | error error => exact .pure (fun _ stands => stands.readable covers) fun _ stands => stands
  | ok copy =>
      refine .pure (fun _ stands => stands.readable more) fun _ stands =>
        ⟨rig.take (.copy stream) copy, ?_, ?_, stands⟩
      · simp [scope, take]
      · intro slot member
        have different : slot ≠ .copy stream := fun same => unheld (same ▸ member)
        simp [take, different]

theorem keeps_redirect {stream : Stream} (writer : .writer stream ∈ held)
    (later : Covers held (stream :: aimed)) :
    Keeps (Readable origin)
      (Tried (rig.Stands origin held aimed) fun _ => rig.Stands origin held (stream :: aimed))
      (rig.Stands origin held aimed)
      (call (SystemCall.redirect (rig.number (.writer stream)) stream.number)) := by
  refine keeps_attempt covers (fun _ _ stands => stands.readable later) fun host stands => ?_
  refine (Ensures.redirect _ stream.number host ⟨rfl, List.Subset.refl _⟩).weaken ?_
  rintro done ⟨file, found, shows⟩
  rw [stands.slots _ writer] at found
  rw [shows.files]
  refine stands.point isOpen stream ?_ fun other different => by simp [different]
  rw [if_pos List.mem_cons_self]
  exact found

theorem keeps_close {slot : Slot} (member : slot ∈ held)
    (later : Covers (held.filter (· ≠ slot)) aimed) :
    Keeps (Readable origin) (fun _ => rig.Stands origin (held.filter (· ≠ slot)) aimed)
      (rig.Stands origin held aimed) (call (SystemCall.close (rig.number slot))) := by
  refine .call (fun _ stands => stands.readable covers) (fun _ _ stands => stands.readable later) ?_
  intro host stands
  have shows := Ensures.close (rig.number slot) host ⟨rfl, List.Subset.refl host.threads⟩
  rw [shows.files]
  exact stands.drop isOpen member

theorem keeps_giveBack {stream : Stream} (copy : .copy stream ∈ held) :
    Keeps (Readable origin) (fun _ => rig.Stands origin held (aimed.filter (· ≠ stream)))
      (rig.Stands origin held aimed)
      (call (SystemCall.giveBack (rig.number (.copy stream)) stream.number)) := by
  refine .call (fun _ stands => stands.readable covers)
    (fun _ _ stands => stands.readable (covers.without stream)) ?_
  intro host stands
  obtain ⟨file, saved⟩ := Option.ne_none_iff_exists'.mp (isOpen stream)
  have found : host.opened (rig.number (.copy stream)) = some file :=
    (stands.slots _ copy).trans saved
  have shows := Ensures.giveBack found stream.number host ⟨rfl, List.Subset.refl host.threads⟩
  rw [shows.files]
  refine stands.point isOpen stream ?_ fun other different => by simp [different]
  simp [saved]

/-- A scope is restored: the stream is pointed back, and the copy is closed. -/
theorem keeps_restoring {stream : Stream} (copy : .copy stream ∈ held) :
    Keeps (Readable origin)
      (fun _ => rig.Stands origin (held.filter (· ≠ .copy stream)) (aimed.filter (· ≠ stream)))
      (rig.Stands origin held aimed)
      (rig.scope stream).restoring := by
  have closed := covers.restored stream
  refine (keeps_flush covers stream).bind fun _ => ?_
  refine (keeps_giveBack covers isOpen copy).bind fun _ => ?_
  refine (keeps_close (covers.without stream) isOpen copy closed).bind fun _ => ?_
  exact .pure (fun _ stands => stands.readable closed) fun _ stands => stands

end

/-! ## Starting and stopping -/

/-- The tap of a stream. -/
def tap (rig : Rig) (stream : Stream) (thread : Option Nat) : Tap where
  scope := rig.scope stream
  writer := rig.number (.writer stream)
  source := rig.number (.source stream)
  thread := thread

/-- The taps of both streams. -/
def taps (rig : Rig) (threads : PerStream (Option Nat)) : PerStream Tap where
  stdout := rig.tap .stdout threads.stdout
  stderr := rig.tap .stderr threads.stderr

/-- The ends of both pipes. -/
def pipeEnds : List Slot :=
  [.writer .stderr, .source .stderr, .writer .stdout, .source .stdout]

/-- All that a capture holds while it is active. -/
def everything : List Slot :=
  .copy .stderr :: .copy .stdout :: pipeEnds

/-- What pointing both streams at their pipes leads to: on a failure only the ends of the pipes
are held. -/
def Redirected (rig : Rig) (origin : OpenFiles) (outcome : Except CaptureError (PerStream Scope))
    (files : OpenFiles) : Prop :=
  ∃ more : Rig, more.Agrees rig pipeEnds ∧
    Tried (more.Stands origin pipeEnds [])
      (fun scopes files =>
        scopes = { stdout := more.scope .stdout, stderr := more.scope .stderr } ∧
          more.Stands origin everything [.stderr, .stdout] files)
      outcome files

section

variable {origin : OpenFiles} {rig : Rig} (isOpen : ∀ stream : Stream, origin stream.number ≠ none)

include isOpen

theorem keeps_stopping {capture : Capture} {threads : PerStream (Option Nat)}
    (active : capture.taps = some (rig.taps threads)) :
    Keeps (Readable origin) (fun stopped files => stopped.taps = none ∧ files = origin)
      (rig.Stands origin everything [.stderr, .stdout]) capture.stopping := by
  have steady {held : List Slot} {aimed : List Stream} (covers : Covers held aimed)
      {files : OpenFiles} : rig.Stands origin held aimed files → Readable origin files :=
    fun stands => stands.readable covers
  have asked (tap : Tap) (host : Host) : (Capture.askToStop tap host).2.opened = host.opened :=
    (Ensures.askToStop tap host ⟨rfl, List.Subset.refl host.threads⟩).files
  have joined (tap : Tap) (host : Host) : (Capture.joinTap tap host).2.opened = host.opened :=
    (Ensures.joinTap tap host ⟨rfl, List.Subset.refl host.threads⟩).files
  have reported (stream : Stream) (early : Option OsError) (host : Host) :
      (Capture.reportEarlyEnd stream early host).2.opened = host.opened :=
    (Ensures.reportEarlyEnd stream early host ⟨rfl, List.Subset.refl host.threads⟩).files
  unfold Capture.stopping
  rw [active]
  refine (keeps_call (by decide) (asked _)).bind fun _ => ?_
  refine (keeps_call (by decide) (asked _)).bind fun _ => ?_
  refine (keeps_restoring (by decide) isOpen (by decide)).bind fun _ => ?_
  refine (keeps_restoring (by decide) isOpen (by decide)).bind fun _ => ?_
  refine (keeps_close (by decide) isOpen (by decide) (by decide)).bind fun _ => ?_
  refine (keeps_close (by decide) isOpen (by decide) (by decide)).bind fun _ => ?_
  refine (keeps_call (by decide) (joined _)).bind fun _ => ?_
  refine (keeps_call (by decide) (joined _)).bind fun _ => ?_
  refine (keeps_close (by decide) isOpen (by decide) (by decide)).bind fun _ => ?_
  refine (keeps_close (by decide) isOpen (by decide) (by decide)).bind fun _ => ?_
  refine (keeps_call (by decide) (reported _ _)).bind fun _ => ?_
  refine (keeps_call (by decide) (reported _ _)).bind fun _ => ?_
  exact .pure (fun _ stands => stands.readable (by decide)) fun _ stands => ⟨rfl, stands.eq_origin⟩

/-- Closing both ends of a pipe. -/
theorem keeps_closingPipe {held : List Slot} {stream : Stream}
    (member : .source stream ∈ held ∧ .writer stream ∈ held) :
    Keeps (Readable origin)
      (fun _ => rig.Stands origin
        ((held.filter (· ≠ .source stream)).filter (· ≠ .writer stream)) [])
      (rig.Stands origin held []) (Capture.closingPipe (rig.ends stream)) := by
  refine (keeps_close (.none held) isOpen member.1 (.none _)).bind fun _ => ?_
  exact keeps_close (.none _) isOpen (by simp [member.2]) (.none _)

/-- Both scopes are restored after a failure, whether or not standard output has been
redirected. -/
theorem keeps_undoing {both : Rig} (agrees : both.Agrees rig pipeEnds) {aimed : List Stream}
    (covers : Covers everything aimed)
    (nowhere : (aimed.filter (· ≠ .stderr)).filter (· ≠ .stdout) = []) (error : CaptureError) :
    Keeps (Readable origin) (rig.Redirected origin) (both.Stands origin everything aimed)
      (do
        let _ ← (both.scope .stderr).restoring
        let _ ← (both.scope .stdout).restoring
        return Except.error error) := by
  refine (keeps_restoring covers isOpen (by decide)).bind fun _ => ?_
  refine (keeps_restoring (covers.restored _) isOpen (by decide)).bind fun _ => ?_
  rw [nowhere]
  exact .pure (fun _ stands => stands.readable (.none _)) fun _ stands => ⟨both, agrees, stands⟩

theorem keeps_redirectingBoth :
    Keeps (Readable origin) (rig.Redirected origin) (rig.Stands origin pipeEnds [])
      (Capture.redirectingBoth
        { stdout := rig.number (.writer .stdout), stderr := rig.number (.writer .stderr) }) := by
  refine (keeps_saving (by decide) isOpen (by decide) (by decide)).bind fun first => ?_
  cases first with
  | error error =>
      exact .pure (fun _ stands => Stands.readable stands (by decide)) fun _ stands =>
        ⟨rig, fun _ _ => rfl, stands⟩
  | ok stdout =>
      refine .chosen fun one => .given fun isStdout => .given fun agreesOne => ?_
      subst isStdout
      refine (keeps_saving (by decide) isOpen (by decide) (by decide)).bind fun second => ?_
      cases second with
      | error error =>
          refine (keeps_restoring (by decide) isOpen (by decide)).bind fun _ => ?_
          exact .pure (fun _ stands => stands.readable (by decide)) fun _ stands =>
            ⟨one, agreesOne, stands⟩
      | ok stderr =>
          refine .chosen fun both => .given fun isStderr => .given fun agreesBoth => ?_
          subst isStderr
          have agrees : both.Agrees rig pipeEnds := fun slot member =>
            (agreesBoth slot (List.mem_cons_of_mem _ member)).trans (agreesOne slot member)
          have sameScope : one.scope .stdout = both.scope .stdout := by
            rw [scope, scope, agreesBoth _ List.mem_cons_self]
          rw [sameScope, ← agrees (.writer .stdout) (by decide),
            ← agrees (.writer .stderr) (by decide)]
          refine (keeps_redirect (by decide) isOpen (by decide) (by decide)).bind
            fun redirected => ?_
          cases redirected with
          | error error => exact keeps_undoing isOpen agrees (by decide) rfl _
          | ok done =>
              refine (keeps_redirect (by decide) isOpen (by decide) (by decide)).bind
                fun redirected => ?_
              cases redirected with
              | error error => exact keeps_undoing isOpen agrees (by decide) rfl _
              | ok done =>
                  exact .pure (fun _ stands => Stands.readable stands (by decide)) fun _ stands =>
                    ⟨both, agrees, rfl, stands⟩

omit isOpen in
theorem keeps_startingTap {held : List Slot} {aimed : List Stream} (covers : Covers held aimed)
    (tap : Tap) (nonblocking : Bool) :
    Keeps (Readable origin) (fun _ => rig.Stands origin held aimed) (rig.Stands origin held aimed)
      (Capture.startingTap tap nonblocking) := by
  have polled (host : Host) : (SystemCall.setPolling tap.source host).2.opened = host.opened :=
    Attempt.opened_eq (Ensures.setPolling tap.source host ⟨rfl, List.Subset.refl host.threads⟩)
  have started (host : Host) : (SystemCall.startReader tap.source host).2.opened = host.opened :=
    Attempt.opened_eq (Ensures.startReader tap.source host ⟨rfl, List.Subset.refl host.threads⟩)
  cases nonblocking with
  | false => exact keeps_call covers started
  | true =>
      refine (keeps_call covers polled).bind fun outcome => ?_
      cases outcome with
      | error error => exact .pure (fun _ stands => stands.readable covers) fun _ stands => stands
      | ok done => exact keeps_call covers started

/-- The capture is not active and everything is as it was, or it is active and holds all its
descriptors. -/
def Settled (origin : OpenFiles) (capture : Capture) (files : OpenFiles) : Prop :=
  capture.taps = none ∧ files = origin ∨
    ∃ (rig : Rig) (threads : PerStream (Option Nat)),
      capture.taps = some (rig.taps threads) ∧
        rig.Stands origin everything [.stderr, .stdout] files

theorem keeps_startingReaders (capture : Capture) :
    Keeps (Readable origin) (fun reached => Settled origin reached.2)
      (rig.Stands origin everything [.stderr, .stdout])
      (capture.startingReaders (rig.taps { stdout := none, stderr := none })) := by
  have stopped (threads : PerStream (Option Nat)) (error : CaptureError) :
      Keeps (Readable origin)
        (fun (reached : Except CaptureError Unit × Capture) => Settled origin reached.2)
        (rig.Stands origin everything [.stderr, .stdout])
        (do
          let stopped ← { capture with taps := some (rig.taps threads) }.stopping
          return (.error error, stopped)) := by
    refine (keeps_stopping isOpen rfl).bind fun stopped => .given fun inactive => ?_
    refine .pure ?_ fun files same => .inl ⟨inactive, same⟩
    rintro files rfl
    exact (Stands.initially rig _).readable (.none _)
  refine (keeps_startingTap (by decide) _ _).bind fun first => ?_
  cases first with
  | error error => exact stopped _ _
  | ok first =>
      refine (keeps_startingTap (by decide) _ _).bind fun second => ?_
      cases second with
      | error error => exact stopped { stdout := some first, stderr := none } _
      | ok second =>
          exact .pure (fun _ stands => stands.readable (by decide)) fun _ stands =>
            .inr ⟨rig, { stdout := some first, stderr := some second }, rfl, stands⟩

omit isOpen in
theorem Settled.readable {capture : Capture} {files : OpenFiles}
    (settled : Settled origin capture files) : Readable origin files := by
  obtain ⟨-, rfl⟩ | ⟨rig, threads, -, stands⟩ := settled
  · exact (Stands.initially ⟨fun _ => 0, fun _ => 0⟩ _).readable (.none _)
  · exact stands.readable (by decide)

theorem keeps_starting (capture : Capture) :
    Keeps (Readable origin) (fun reached => Settled origin reached.2) (Settled origin capture)
      capture.starting := by
  have safe (capture : Capture) (files : OpenFiles) (settled : Settled origin capture files) :
      Readable origin files := settled.readable
  unfold Capture.starting
  split
  · exact .pure (safe capture) fun _ settled => settled
  · rename_i inactive
    have isInactive : capture.taps = none := by simpa [Capture.isActive] using inactive
    let rig : Rig := ⟨fun _ => 0, fun _ => 0⟩
    have atFirst (files : OpenFiles) (settled : Settled origin capture files) :
        rig.Stands origin [] [] files := by
      obtain ⟨-, rfl⟩ | ⟨_, _, active, -⟩ := settled
      · exact .initially rig _
      · cases isInactive.symm.trans active
    have failed {rig : Rig} (error : CaptureError) :
        Keeps (Readable origin)
          (fun (reached : Except CaptureError Unit × Capture) => Settled origin reached.2)
          (rig.Stands origin [] []) (pure (.error error, capture)) :=
      .pure (fun _ stands => stands.readable (.none _)) fun _ stands =>
        .inl ⟨isInactive, stands.eq_origin⟩
    refine .strengthen ?_ atFirst
    refine (keeps_pipe (by decide) isOpen .stdout (by decide) (by decide)).bind fun outcome => ?_
    cases outcome with
    | error error => exact failed _
    | ok stdoutPipe =>
        refine .chosen fun one => .given fun isStdout => .given fun _ => ?_
        subst isStdout
        refine (keeps_pipe (by decide) isOpen .stderr (by decide) (by decide)).bind
          fun outcome => ?_
        cases outcome with
        | error error => exact (keeps_closingPipe isOpen (by decide)).bind fun _ => failed _
        | ok stderrPipe =>
            refine .chosen fun two => .given fun isStderr => .given fun agrees => ?_
            subst isStderr
            have sameEnds : one.ends .stdout = two.ends .stdout := by
              rw [ends, ends, agrees _ (by decide), agrees _ (by decide)]
            rw [sameEnds]
            refine (keeps_redirectingBoth isOpen).bind fun outcome => ?_
            refine .chosen fun more => .given fun agrees => ?_
            have same (stream : Stream) : two.ends stream = more.ends stream := by
              cases stream <;>
                rw [ends, ends, agrees _ (by decide), agrees _ (by decide)]
            rw [same .stdout, same .stderr]
            cases outcome with
            | error error =>
                refine (keeps_closingPipe isOpen (by decide)).bind fun _ => ?_
                exact (keeps_closingPipe isOpen (by decide)).bind fun _ => failed _
            | ok scopes =>
                refine .given fun redirected => ?_
                subst redirected
                exact keeps_startingReaders isOpen capture

theorem keeps_settled_stopping (capture : Capture) :
    Keeps (Readable origin) (fun reached => Settled origin reached) (Settled origin capture)
      capture.stopping := by
  cases active : capture.taps with
  | none =>
      unfold Capture.stopping
      rw [active]
      exact .pure (fun _ settled => settled.readable) fun _ settled => settled
  | some taps =>
      have held (files : OpenFiles) (settled : Settled origin capture files) :
          ∃ (rig : Rig) (threads : PerStream (Option Nat)), capture.taps = some (rig.taps threads) ∧
            rig.Stands origin everything [.stderr, .stdout] files := by
        obtain ⟨inactive, -⟩ | known := settled
        · cases active.symm.trans inactive
        · exact known
      refine .strengthen (.chosen fun rig => .chosen fun threads => .given fun taps => ?_) held
      exact (keeps_stopping isOpen taps).weaken fun _ _ stopped => .inl stopped

end

end Rig

/-! ## A capture from its making to its end -/

namespace Capture

/-- What the owner of a capture can do with it, apart from looking at what it has captured. -/
inductive Handling
  | start
  | stop

/-- The capture is started and stopped in this order, and dropped in the end. -/
def handle (capture : Capture) : List Handling → Action Unit
  | [] => discard capture.stop
  | .start :: rest => do
      let (_, reached) ← capture.start
      reached.handle rest
  | .stop :: rest => do
      let reached ← capture.stop
      reached.handle rest

/-- The same, step by step. -/
def handling (capture : Capture) : List Handling → Routine Unit
  | [] => do
      let _ ← capture.stopping
      return ()
  | .start :: rest => do
      let (_, reached) ← capture.starting
      reached.handling rest
  | .stop :: rest => do
      let reached ← capture.stopping
      reached.handling rest

theorem perform_handling (capture : Capture) (uses : List Handling) :
    (capture.handling uses).perform = capture.handle uses := by
  induction uses generalizing capture with
  | nil => exact Routine.perform_bind (perform_stopping _) fun _ => rfl
  | cons use rest ih =>
      cases use with
      | start => exact Routine.perform_bind (perform_starting _) fun reached => ih reached.2
      | stop => exact Routine.perform_bind (perform_stopping _) fun reached => ih reached

theorem keeps_handling {origin : OpenFiles}
    (isOpen : ∀ stream : Stream, origin stream.number ≠ none) (capture : Capture)
    (uses : List Handling) :
    Keeps (Readable origin) (fun _ => Readable origin) (Rig.Settled origin capture)
      (capture.handling uses) := by
  induction uses generalizing capture with
  | nil =>
      refine (Rig.keeps_settled_stopping isOpen capture).bind fun reached => ?_
      exact .pure (fun _ settled => settled.readable) fun _ settled => settled.readable
  | cons use rest ih =>
      cases use with
      | start => exact (Rig.keeps_starting isOpen capture).bind fun reached => ih reached.2
      | stop => exact (Rig.keeps_settled_stopping isOpen capture).bind fun reached => ih reached

end Capture

/-! ## Broken pipes -/

/-- Whenever a stream is pointed at a pipe, the process holds the reading end of that pipe. -/
def OpenFiles.MeetReaders (files : OpenFiles) : Prop :=
  ∀ (stream : Stream) (pipe : Nat), files stream.number = some (.pipeWriter pipe) →
    ∃ number, files number = some (.pipeReader pipe)

theorem Readable.meetReaders {origin files : OpenFiles} (readable : Readable origin files)
    (met : origin.MeetReaders) : files.MeetReaders := by
  intro stream pipe found
  obtain same | ⟨own, isOwn, held⟩ := readable.streams stream
  · obtain ⟨number, held⟩ := met stream pipe (same ▸ found)
    exact readable.kept number _ held
  · cases found.symm.trans isOwn
    exact held

/-- Only a write to a pipe of which nobody holds the reading end fails with a broken pipe. -/
theorem SystemCall.write_brokenPipe_iff (number : Nat) (bytes : Bytes) (host : Host) :
    (SystemCall.write number bytes host).1 = .error .brokenPipe ↔
      ∃ pipe, host.opened number = some (.pipeWriter pipe) ∧
        ∀ other, host.opened other ≠ some (.pipeReader pipe) := by
  cases found : host.opened number with
  | none => simp [SystemCall.write_closed found, OsError.badDescriptor, OsError.brokenPipe]
  | some file =>
      rw [SystemCall.write_open found]
      cases file with
      | pipeWriter pipe =>
          have readable_iff := host.table.refersTo_iff (.pipeReader pipe)
          cases readable : host.table.refersTo (.pipeReader pipe) with
          | true =>
              obtain ⟨other, held⟩ := readable_iff.mp readable
              simp only [Host.deliver, readable]
              simpa using ⟨other, held⟩
          | false =>
              simp only [Host.deliver, readable]
              simpa [readable, Host.opened] using readable_iff
      | initial | discard | entry => simp [Host.deliver]
      | emptyInput | pipeReader =>
          simp [Host.deliver, OsError.badDescriptor, OsError.brokenPipe]

/-- What a state on the way of a capture has to do with the state before. -/
structure WritersMeetReaders (before now : Host) : Prop where
  /-- A stream refers to what it referred to before, or to a pipe of which the process holds the
  reading end. -/
  streams : ∀ stream : Stream, now.opened stream.number = before.opened stream.number ∨
    ∃ pipe, now.opened stream.number = some (.pipeWriter pipe) ∧
      ∃ number, now.opened number = some (.pipeReader pipe)
  pipes : before.opened.MeetReaders → now.opened.MeetReaders
  /-- No write to a stream finds a broken pipe. -/
  writes : before.opened.MeetReaders → ∀ (stream : Stream) (bytes : Bytes),
    (SystemCall.write stream.number bytes now).1 ≠ .error .brokenPipe

namespace Capture

/-- However a capture is used, in steps between which others write and readers move, writers
meet readers in every state that is reached. -/
theorem writers_meet_readers (capture : Capture) (uses : List Handling) {before now : Host}
    (inactive : capture.isActive = false)
    (isOpen : ∀ stream : Stream, before.opened stream.number ≠ none) {left : Routine Unit}
    (reaches : Routine.Reaches (capture.handling uses) before left now) :
    (capture.handling uses).perform = capture.handle uses ∧ WritersMeetReaders before now := by
  have notStarted : capture.taps = none := by simpa [isActive] using inactive
  have readable : Readable before.opened now.opened :=
    (keeps_handling isOpen capture uses).sound (.inl ⟨notStarted, rfl⟩) reaches
  refine ⟨capture.perform_handling uses, readable.streams, readable.meetReaders, ?_⟩
  intro met stream bytes broken
  obtain ⟨pipe, found, unheld⟩ := (SystemCall.write_brokenPipe_iff _ _ _).mp broken
  obtain ⟨number, held⟩ := readable.meetReaders met stream pipe found
  exact unheld number held

/-- The reader of standard error has failed and the capture is being stopped: standard output is
restored, and standard error still refers to its pipe. -/
theorem writers_meet_readers_stopping :
    let capture : Capture := {}
    let before := Host.start [] [] []
    let started := (capture.handling [.start, .stop]).advance 10 before
    let failed := started.2.move 1 (.fail (.code 5))
    let reached := started.1.advance 4 failed
    (reached.2.reader? 1).map Reader.status = some (.failed (.code 5)) ∧
      reached.2.opened Stream.stdout.number = before.opened Stream.stdout.number ∧
      reached.2.opened Stream.stderr.number = some (.pipeWriter 1) ∧
      WritersMeetReaders before reached.2 := by
  intro capture before started failed reached
  have isOpen (stream : Stream) : before.opened stream.number ≠ none := by
    cases stream <;> exact nofun
  have reaches : Routine.Reaches (capture.handling [.start, .stop]) before reached.1 reached.2 :=
    (((Routine.Reaches.refl _ _).advance 10).interrupt (.reader 1 (.fail (.code 5)) _)).advance 4
  refine ⟨by decide +kernel, by decide +kernel, by decide +kernel, ?_⟩
  exact (writers_meet_readers capture [.start, .stop] rfl isOpen reaches).2

end Capture

end CompileDriver
