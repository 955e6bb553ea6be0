import CompileDriver.Proofs.Guard.Account
import CompileDriver.Proofs.Host.Notes

/-!
# Hiding a stream

A stream is hidden by pointing it at the discard device.  What is held back of it before
that is passed on to its file, and what is held back of it when it is pointed back is
discarded, since each time the stream is flushed first.  So nothing passes to the file in
between, and nothing is left that could pass later.  The other stream does not notice.
-/

namespace CompileDriver

open Function (update)

/-! ## Passing nothing -/

namespace Host

/-- Nothing passes to a file while its number refers to something else. -/
theorem Utterances.passedSince_elsewhere {foreign : Nat → Prop} {before after : Host}
    (utterances : Utterances foreign before after) {number : Nat} {file : OpenFile}
    (elsewhere : before.opened number ≠ some file) :
    after.passedSince before number file = [] := by
  obtain ⟨-, tables⟩ := Notes.iff_historySince.mp utterances.notes
  rw [passedSince, List.flatMap_eq_nil_iff]
  intro moment member
  rw [Moment.passedTo, tables moment member]
  exact if_neg elsewhere

end Host

/-- What is held back of a hidden stream is discarded when the stream is flushed. -/
theorem Stream.flush_hidden (stream : Stream) {host : Host} {opening : Nat}
    (hidden : host.opened stream.number = some (.discard opening)) :
    (stream.flush host).2.heldBack stream = [] := by
  cases stream with
  | stderr => rfl
  | stdout =>
      by_cases empty : host.lineBuffer = []
      · rw [Stream.stdout.flush_at_rest empty]
        exact empty
      · have written : writeOut .stdout host.lineBuffer host =
            (true, host.takeTurn.note (.delivered Stream.stdout.number host.lineBuffer)) := by
          rw [writeOut, Action.bind_apply, SystemCall.write_open hidden]
          rfl
        rw [flush_written empty written]
        rfl

/-- Once the stream has been flushed, restoring it delivers nothing. -/
theorem Scope.restore_mute (stream : Stream) (copy : Nat) (host : Host) :
    (stream.flush host).2.Mute (Scope.restore { stream, saved := some copy } host).2 := by
  have givenBack := IsMute.giveBack copy stream.number (stream.flush host).2 trivial
  exact givenBack.1.trans (IsMute.close copy _ trivial).1

/-! ## The files of a hidden stream -/

/-- The open files while a stream is hidden: its file is saved under a number, and the
stream points at the discard device. -/
def OpenFiles.veiled (files : OpenFiles) (stream : Stream) (copy opening : Nat) : OpenFiles :=
  update (update files copy (files stream.number)) stream.number (some (.discard opening))

namespace OpenFiles

variable {files : OpenFiles} {stream : Stream} {copy : Nat}

@[simp]
theorem veiled_stream (files : OpenFiles) (stream : Stream) (copy opening : Nat) :
    files.veiled stream copy opening stream.number = some (.discard opening) :=
  Function.update_self _ _ _

/-- All other numbers that were open refer to the same files. -/
theorem veiled_other (isFree : files copy = none) (opening : Nat) {number : Nat}
    (used : files number ≠ none) (notStream : number ≠ stream.number) :
    files.veiled stream copy opening number = files number := by
  rw [veiled, Function.update_of_ne notStream, Function.update_of_ne]
  rintro rfl
  exact used isFree

/-- The saved file is that of the stream, and giving it back leaves the files of before. -/
theorem unveiled (isOpen : files stream.number ≠ none) (isFree : files copy = none)
    (opening : Nat) :
    files.veiled stream copy opening copy = files stream.number ∧
      update (update (files.veiled stream copy opening) stream.number (files stream.number))
        copy none = files := by
  have different : copy ≠ stream.number := by
    rintro rfl
    exact isOpen isFree
  constructor
  · rw [veiled, Function.update_of_ne different, Function.update_self]
  · rw [veiled, Function.update_idem, Function.update_comm different.symm, Function.update_idem,
      ← isFree, Function.update_eq_self, Function.update_eq_self]

/-- A stream that takes what is written still does so, the hidden one on behalf of the discard
device. -/
theorem veiled_takes (isOpen : files stream.number ≠ none) (isFree : files copy = none)
    (opening : Nat) {other : Stream} (takes : files.Takes other.number) :
    (files.veiled stream copy opening).Takes other.number := by
  by_cases same : other = stream
  · subst same
    simp [Takes]
  · have notStream : other.number ≠ stream.number := fun equal =>
      same (Stream.number_injective equal)
    have found := veiled_other isFree opening takes.isOpen notStream
    cases used : files other.number with
    | none => exact absurd used takes.isOpen
    | some file =>
        cases file with
        | pipeWriter pipe =>
            simp only [Takes, found, used] at takes ⊢
            obtain ⟨reader, reads⟩ := takes
            by_cases hidden : reader = stream.number
            · -- the reading end is still there, saved
              exact ⟨copy, (unveiled isOpen isFree opening).1.trans (hidden ▸ reads)⟩
            · exact ⟨reader, (veiled_other isFree opening (by simp [reads]) hidden).trans reads⟩
        | _ => simp_all [Takes]

end OpenFiles

/-! ## What passes while a stream is hidden -/

/-- Since `started` one stream has pointed at the discard device, and nothing has passed to
its file. -/
def Host.Veils (flows : Stream → Prop) (started : Host) (files : PerStream OpenFile)
    (stream : Stream) (opening : Nat) (taken : Stream → Bytes) (host : Host) : Prop :=
  Host.Passing flows started (files.set stream (.discard opening)) taken host ∧
    host.passedSince started stream.number (files.get stream) = []

namespace Host

variable {flows : Stream → Prop} {base started host : Host} {files : PerStream OpenFile}
  {stream : Stream} {opening : Nat} {held : Stream → Bytes}

theorem veils_sink (flows : Stream → Prop) (started : Host)
    (different : files.get stream ≠ .discard opening) :
    Sink flows (Veils flows started files stream opening) := by
  apply (passing_sink flows started (files.set stream (.discard opening))).keeping
  · intro taken host writing bytes passing nothing
    have written := SystemCall.write_utterances writing.number bytes host
    have elsewhere : host.opened stream.number ≠ some (files.get stream) := by
      rw [passing.found stream, PerStream.get_set_self]
      exact fun same => different (Option.some.inj same).symm
    rw [passedSince_trans passing.grown written.notes.grown, nothing,
      written.passedSince_elsewhere elsewhere]
    rfl
  · exact fun lineBuffer nothing => nothing

namespace Accounts

variable {earlier since : Stream → Bytes}

/-- While a stream is hidden, what is written to it does not pass; what is written to the
other stream does. -/
theorem veiled
    (accounts : Accounts flows base files held (fun other => [⟨.process, earlier other⟩]) started)
    (empty : flows stream → started.heldBack stream = [])
    (ledger : Ledger flows (Veils flows started files stream opening) started.heldBack
      (fun other => [⟨.process, since other⟩]) host) {other : Stream} (flowing : flows other) :
    other.Arrives (held other)
      [⟨.process, earlier other ++ if other = stream then [] else since other⟩]
      (host.passedSince base other.number (files.get other))
      (if other = stream then [] else host.heldBack other) := by
  obtain ⟨taken, ⟨passing, nothing⟩, arrives⟩ := ledger
  rw [passedSince_trans accounts.grown passing.grown]
  by_cases same : other = stream
  · subst same
    have arrived := accounts.arrives other flowing
    rw [empty flowing] at arrived
    simpa [nothing] using arrived
  · have passed := passing.passed other flowing
    rw [PerStream.get_set_of_ne _ _ same] at passed
    rw [if_neg same, if_neg same, passed]
    exact (accounts.arrives other flowing).continued (arrives other flowing)

end Accounts

/-! ## Setting up -/

/-- What a debug record with a message writes to a stream. -/
def remark (host : Host) (message : String) (stream : Stream) : Bytes :=
  if host.threshold.admits .debug ∧
      (host.logger.bind fun logger => logger.route .debug) = some (.standard stream) then
    Bytes.ofText (Level.debug.line message)
  else []

/-- A debug record is written to a standard stream, or it delivers nothing. -/
theorem debug_cases (message : String) (host : Host) :
    (∃ stream : Stream, (Log.debug message host).2 =
        (stream.write (Bytes.ofText (Level.debug.line message))
          (host.note (.logRecord .debug message))).2 ∧
      ∀ other, host.remark message other =
        stream.only (Bytes.ofText (Level.debug.line message)) other) ∨
    (host.Mute (Log.debug message host).2 ∧ ∀ other, host.remark message other = []) := by
  have noted : host.Mute (host.note (.logRecord .debug message)) :=
    .note host fun _ _ => Event.noConfusion
  cases logs : host.logger with
  | none => exact .inr ⟨by simp [Log.debug, logs, Mute.refl], by simp [remark, logs]⟩
  | some logger =>
      have logged : (Log.debug message host).2 = (logger.log .debug message host).2 := by
        simp [Log.debug, logs]
      by_cases admits : host.threshold.admits .debug = true
      · cases routed : logger.route .debug with
        | none =>
            refine .inr ⟨?_, by simp [remark, logs, routed]⟩
            simpa [logged, Logger.log, admits, routed] using noted
        | some output =>
            cases output with
            | buffer number =>
                refine .inr ⟨noted.trans ?_, by simp [remark, logs, routed]⟩
                simp only [logged, Logger.log, Action.bind_apply, Action.get_apply, admits,
                  if_true, routed]
                exact .of_same rfl rfl
            | standard stream =>
                refine .inl ⟨stream, ?_, fun other => ?_⟩
                · simp only [logged, Logger.log, Action.bind_apply, Action.get_apply, admits,
                    if_true, routed]
                  rfl
                · by_cases same : other = stream
                  · simp [remark, logs, routed, admits, same, Stream.only]
                  · simp [remark, logs, routed, same, Stream.only, Ne.symm same]
      · refine .inr ⟨?_, by simp [remark, admits]⟩
        simp [logged, Logger.log, admits, Mute.refl]

/-- A debug record is a write of the process. -/
theorem Accounts.debug {written : Stream → Bytes}
    (accounts : Accounts flows base files held (fun other => [⟨.process, written other⟩]) host)
    (found : ∀ stream : Stream, host.opened stream.number = some (files.get stream))
    (takes : ∀ stream : Stream, flows stream → host.opened.Takes stream.number)
    (message : String) :
    Accounts flows base files held
      (fun other => [⟨.process, written other ++ host.remark message other⟩])
      (Log.debug message host).2 := by
  rcases debug_cases message host with ⟨stream, wrote, remarked⟩ | ⟨mute, nothing⟩
  · have noted : host.Mute (host.note (.logRecord .debug message)) :=
      .note host fun _ _ => Event.noConfusion
    simp only [wrote, remarked]
    exact (accounts.mute noted).write found takes stream _
  · simpa only [nothing, List.append_nil] using accounts.mute mute

end Host

/-- To hide a stream is to flush it first. -/
theorem Suppressor.discardStream_after_flush (stream : Stream) {host : Host}
    (empty : (stream.flush host).2.heldBack stream = []) :
    discardStream stream (stream.flush host).2 = discardStream stream host := by
  rw [discardStream, Action.bind_apply, Scope.save_after_flush stream empty]
  rfl

/-- Hiding a stream passes on what is held back of it, also when it fails. -/
theorem Host.Accounts.discardStream {flows : Stream → Prop} {base host : Host}
    {files : PerStream OpenFile} {held : Stream → Bytes} {pieces : Stream → List Piece}
    (accounts : Accounts flows base files held pieces host)
    (found : ∀ stream : Stream, host.opened stream.number = some (files.get stream))
    (takes : ∀ stream : Stream, flows stream → host.opened.Takes stream.number)
    (stream : Stream) :
    Accounts flows base files held pieces (Suppressor.discardStream stream host).2 ∧
      (flows stream → (Suppressor.discardStream stream host).2.heldBack stream = []) := by
  obtain ⟨flushed, empty⟩ :=
    (passing_sink flows base files).flush stream host (accounts.ledger found takes)
  have passesOn (empty : (stream.flush host).2.heldBack stream = []) :
      Accounts flows base files held pieces (Suppressor.discardStream stream host).2 ∧
        (Suppressor.discardStream stream host).2.heldBack stream = [] := by
    have mute := (IsMuteFor.discardStream stream _ empty).1
    rw [Suppressor.discardStream_after_flush stream empty] at mute
    exact ⟨(of_ledger flushed).mute mute, (congrFun mute.heldBack stream).trans empty⟩
  refine ⟨?_, fun flowing => (passesOn (empty flowing)).2⟩
  by_cases flowing : flows stream
  · exact (passesOn (empty flowing)).1
  · cases stream with
    | stdout =>
        exact accounts.withheld flowing (Withholding.discardStream .stdout host trivial).1
    | stderr => exact (passesOn rfl).1

end CompileDriver
