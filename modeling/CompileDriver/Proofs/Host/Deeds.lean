import CompileDriver.Proofs.Host.Passage
import CompileDriver.Proofs.Host.WellFormed
import CompileDriver.Proofs.Host.Mute
import CompileDriver.Proofs.Host.Spawn

/-!
# Accounts of what is written

A session writes to the streams, itself or by the programs that it starts, and it does
other things besides.  `Deeds` describes a stretch of its execution together with the
account of it: the pieces that were written to each stream, in order.

What a session does besides is an `Aside`: it leaves alone the numbers that are foreign
to it, the pipes behind them and the reader threads, it writes nothing to the streams,
and the pipes that it comes to hold are new.

A hardy sink takes whatever is written in the course of such deeds.
-/

namespace CompileDriver

namespace Host

/-- The number refers to an end of the pipe. -/
def IsEnd (host : Host) (number pipe : Nat) : Prop :=
  host.opened number = some (.pipeReader pipe) ∨ host.opened number = some (.pipeWriter pipe)

/-- Something besides writing to the streams that leaves the foreign numbers alone. -/
structure Aside (foreign : Nat → Prop) (before after : Host) : Prop where
  mute : Mute before after
  numbers : ∀ number, foreign number → after.table.get? number = before.table.get? number
  /-- A pipe with an end that is not foreign had one before, or it is new. -/
  pipes : ∀ number pipe, ¬ foreign number → after.IsEnd number pipe →
    (∃ own, ¬ foreign own ∧ before.IsEnd own pipe) ∨ before.pipes.length ≤ pipe
  queues : ∀ number pipe, foreign number → before.opened number = some (.pipeReader pipe) →
    after.queue pipe = before.queue pipe
  readers : after.readers = before.readers
  schedule : after.schedule <:+ before.schedule
  grows : Grows before after
  wellFormed : before.WellFormed → after.WellFormed

/-- Nothing has happened to the descriptors, the pipes and the threads. -/
structure Idles (before after : Host) : Prop where
  mute : Mute before after
  table : after.table = before.table
  pipes : after.pipes = before.pipes
  readers : after.readers = before.readers
  threadsStarted : after.threadsStarted = before.threadsStarted
  schedule : after.schedule = before.schedule

/-- One deed of a session, and the pieces that it writes to each stream. -/
inductive Deed (foreign : Nat → Prop) : Host → (Stream → List Piece) → Host → Prop
  /-- The process writes to a stream. -/
  | write (host : Host) (stream : Stream) (bytes : Bytes) :
      Deed foreign host (stream.only [⟨.process, bytes⟩]) (stream.write bytes host).2
  /-- A program that has inherited a stream writes to it. -/
  | inherited (host : Host) (stream : Stream) (bytes : Bytes) {file : OpenFile}
      (inherits : host.table.get? stream.number = some ⟨file, true⟩) :
      Deed foreign host (stream.only [⟨.program, bytes⟩])
        (Spawn.writeInherited stream bytes host).2
  | flush (host : Host) (stream : Stream) :
      Deed foreign host (fun _ => []) (stream.flush host).2
  /-- The reader threads move. -/
  | turn (host : Host) : Deed foreign host (fun _ => []) host.takeTurn
  | aside {before after : Host} (aside : Aside foreign before after) :
      Deed foreign before (fun _ => []) after

/-- Deeds one after the other, and the pieces that they write to each stream. -/
inductive Deeds (foreign : Nat → Prop) (first : Host) : (Stream → List Piece) → Host → Prop
  | none : Deeds foreign first (fun _ => []) first
  | next {middle last : Host} {pieces more : Stream → List Piece}
      (deeds : Deeds foreign first pieces middle) (deed : Deed foreign middle more last) :
      Deeds foreign first (fun stream => pieces stream ++ more stream) last

namespace Deeds

variable {foreign : Nat → Prop} {first middle last : Host} {pieces more : Stream → List Piece}

theorem single (deed : Deed foreign first pieces last) : Deeds foreign first pieces last :=
  .next .none deed

theorem trans (start : Deeds foreign first pieces middle) (rest : Deeds foreign middle more last) :
    Deeds foreign first (fun stream => pieces stream ++ more stream) last := by
  induction rest with
  | none => simpa only [List.append_nil] using start
  | next _ deed ih => simpa only [List.append_assoc] using ih.next deed

end Deeds

/-! ## What deeds keep -/

section

variable {foreign : Nat → Prop} {before after : Host} {pieces : Stream → List Piece}

theorem WellFormed.still (wellFormed : before.WellFormed) (still : Still before after)
    (grows : Grows before after) : after.WellFormed :=
  wellFormed.of_shows (.still ⟨rfl, List.Subset.refl _⟩ still) grows

namespace Idles

theorem trans {first second third : Host} (start : Idles first second)
    (rest : Idles second third) : Idles first third where
  mute := start.mute.trans rest.mute
  table := rest.table.trans start.table
  pipes := rest.pipes.trans start.pipes
  readers := rest.readers.trans start.readers
  threadsStarted := rest.threadsStarted.trans start.threadsStarted
  schedule := rest.schedule.trans start.schedule

theorem note (host : Host) {event : Event}
    (silent : ∀ number bytes, event ≠ .delivered number bytes) :
    Idles host (host.note event) :=
  ⟨.note host silent, rfl, rfl, rfl, rfl, rfl⟩

theorem opened (idles : Idles before after) : after.opened = before.opened :=
  congrArg DescriptorTable.file? idles.table

theorem grows (idles : Idles before after) : Grows before after :=
  ⟨Nat.le_of_eq (congrArg List.length idles.pipes.symm), Nat.le_of_eq idles.threadsStarted.symm⟩

theorem wellFormed (idles : Idles before after) (wellFormed : before.WellFormed) :
    after.WellFormed := by
  refine wellFormed.of_shows ⟨idles.opened, ?_⟩ idles.grows
  rw [threads, threads, idles.readers]
  exact List.Subset.refl _

/-- Nothing foreign is concerned. -/
theorem aside (idles : Idles before after) : Aside foreign before after where
  mute := idles.mute
  numbers number _ := by rw [idles.table]
  pipes number pipe notForeign isEnd := by
    rw [IsEnd, idles.opened] at isEnd
    exact .inl ⟨number, notForeign, isEnd⟩
  queues number pipe _ _ := by rw [queue, queue, idles.pipes]
  readers := idles.readers
  schedule := idles.schedule ▸ List.suffix_refl _
  grows := idles.grows
  wellFormed := idles.wellFormed

end Idles

/-- Nothing is written before the deeds. -/
theorem Deeds.after_idling {first middle last : Host} (deeds : Deeds foreign middle pieces last)
    (idles : Idles first middle) : Deeds foreign first pieces last := by
  simpa only [List.nil_append] using (Deeds.single (.aside idles.aside)).trans deeds

theorem Utterances.wellFormed {foreign : Nat → Prop} (utterances : Utterances foreign before after)
    (wellFormed : before.WellFormed) : after.WellFormed :=
  wellFormed.still utterances.still (Steps.grows utterances.steps)

/-- A deed that is no aside only speaks, or lets the readers move. -/
theorem Deed.cases_speaking (deed : Deed foreign before pieces after) :
    Utterances (fun _ => False) before after ∨ Aside foreign before after := by
  have noneForeign (stream : Stream) : ¬ (fun _ : Nat => False) stream.number := not_false
  cases deed with
  | write stream bytes =>
      exact .inl (Speaks.writeStream noneForeign stream bytes before trivial).1
  | inherited stream bytes inherits =>
      exact .inl (Speaks.writeInherited noneForeign stream bytes before trivial).1
  | flush stream => exact .inl (Speaks.flush noneForeign stream before trivial).1
  | turn => exact .inl (.single (.turn before))
  | aside aside => exact .inr aside

theorem Deeds.wellFormed (deeds : Deeds foreign before pieces after)
    (wellFormed : before.WellFormed) : after.WellFormed := by
  induction deeds with
  | none => exact wellFormed
  | next _ deed ih =>
      rcases deed.cases_speaking with utterances | aside
      · exact Utterances.wellFormed utterances ih
      · exact aside.wellFormed ih

theorem Deeds.schedule_suffix (deeds : Deeds foreign before pieces after) :
    after.schedule <:+ before.schedule := by
  induction deeds with
  | none => exact List.suffix_refl _
  | next _ deed ih =>
      rcases deed.cases_speaking with utterances | aside
      · exact (Steps.schedule_suffix utterances.steps).trans ih
      · exact aside.schedule.trans ih

end

end Host

/-! ## Hardy sinks -/

/-- A sink that stays one while the readers move and the session does something
besides. -/
structure HardySink (flows : Stream → Prop) (foreign : Nat → Prop)
    (takes : (Stream → Bytes) → Host → Prop) : Prop extends Sink flows takes where
  turn : ∀ {taken host}, takes taken host → takes taken host.takeTurn
  aside : ∀ {taken before after}, takes taken before → Host.Aside foreign before after →
    takes taken after

namespace HardySink

variable {flows : Stream → Prop} {foreign : Nat → Prop} {takes : (Stream → Bytes) → Host → Prop}
  {held : Stream → Bytes} {pieces more : Stream → List Piece} {before after : Host}

theorem deed (sink : HardySink flows foreign takes)
    (ledger : Host.Ledger flows takes held pieces before)
    (deed : Host.Deed foreign before more after) :
    Host.Ledger flows takes held (fun stream => pieces stream ++ more stream) after := by
  cases deed with
  | write stream bytes => exact sink.toSink.writeStream stream bytes before ledger
  | inherited stream bytes inherits =>
      exact sink.toSink.writeInherited stream bytes ledger inherits
  | flush stream =>
      simpa only [List.append_nil] using (sink.toSink.flush stream before ledger).1
  | turn =>
      rcases ledger with ⟨taken, taking, arrives⟩
      have mute := Host.Mute.readersRan (Host.readersRan_takeTurn before)
      simp only [List.append_nil]
      exact ⟨taken, sink.turn taking, mute.heldBack ▸ arrives⟩
  | aside aside =>
      rcases ledger with ⟨taken, taking, arrives⟩
      simp only [List.append_nil]
      exact ⟨taken, sink.aside taking aside, aside.mute.heldBack ▸ arrives⟩

/-- Nothing is added to the ledger while nothing happens to the streams. -/
theorem idles (sink : HardySink flows foreign takes)
    (ledger : Host.Ledger flows takes held pieces before) (idles : Host.Idles before after) :
    Host.Ledger flows takes held pieces after := by
  simpa only [List.append_nil] using sink.deed ledger (.aside idles.aside)

/-- What the deeds of a session write is added to the ledger. -/
theorem deeds (sink : HardySink flows foreign takes)
    (ledger : Host.Ledger flows takes held pieces before)
    (deeds : Host.Deeds foreign before more after) :
    Host.Ledger flows takes held (fun stream => pieces stream ++ more stream) after := by
  induction deeds with
  | none => simpa only [List.append_nil] using ledger
  | next _ deed ih => simpa only [List.append_assoc] using sink.deed ih deed

end HardySink

/-! ## Counting what is delivered -/

namespace Host

/-- What has been delivered to the streams since `base`. -/
structure Counted (base : Host) (taken : Stream → Bytes) (host : Host) : Prop where
  grown : base.journal <:+ host.journal
  delivered : ∀ stream : Stream, host.deliveredSince base stream.number = taken stream

variable {base before after : Host} {taken : Stream → Bytes}

theorem Counted.initially (base : Host) : Counted base (fun _ => []) base where
  grown := List.suffix_refl _
  delivered stream := by simp [deliveredSince, historySince_self]

theorem Counted.mute (counted : Counted base taken before) (mute : Mute before after) :
    Counted base taken after where
  grown := counted.grown.trans mute.grown
  delivered stream := by
    rw [deliveredSince_trans counted.grown mute.grown, mute.delivered, counted.delivered,
      List.append_nil]

/-- What is written successfully is delivered. -/
theorem Counted.write (counted : Counted base taken before) {stream : Stream} {bytes : Bytes}
    (succeeded : (SystemCall.write stream.number bytes before).1 = .ok ()) :
    Counted base (fun other => taken other ++ stream.only bytes other)
      (SystemCall.write stream.number bytes before).2 := by
  cases found : before.table.file? stream.number with
  | none =>
      rw [SystemCall.write_closed found] at succeeded
      cases succeeded
  | some file =>
      have written := SystemCall.write_open found bytes
      have same := journal_deliver before file bytes
      cases delivered : (before.deliver file bytes).1 with
      | error error =>
          rw [written, delivered] at succeeded
          cases succeeded
      | ok done =>
          rw [delivered] at written
          have grown : base.journal <:+ (before.deliver file bytes).2.journal :=
            same ▸ counted.grown
          rw [written]
          refine ⟨grown.trans (List.suffix_cons _ _), fun other => ?_⟩
          have unchanged : (before.deliver file bytes).2.deliveredSince base =
              before.deliveredSince base := by
            funext number
            simp only [deliveredSince, historySince, history, same]
          rw [deliveredSince_note grown, unchanged, counted.delivered,
            Moment.deliveredTo_stream]

end Host

/-- A hardy sink for both streams stays one when what is delivered is counted. -/
theorem HardySink.counting {foreign : Nat → Prop} {takes : (Stream → Bytes) → Host → Prop}
    (sink : HardySink Stream.Each foreign takes) (base : Host) :
    HardySink Stream.Each foreign fun taken host =>
      takes taken host ∧ Host.Counted base taken host where
  writes := by
    rintro taken host stream bytes flowing ⟨taking, counted⟩
    obtain ⟨succeeded, took⟩ := sink.writes bytes flowing taking
    exact ⟨succeeded, took, counted.write succeeded⟩
  strays _ stray := absurd trivial stray
  buffers := by
    rintro taken host lineBuffer ⟨taking, counted⟩
    exact ⟨sink.buffers lineBuffer taking, counted.grown, counted.delivered⟩
  turn := by
    rintro taken host ⟨taking, counted⟩
    exact ⟨sink.turn taking, counted.mute (.readersRan (Host.readersRan_takeTurn host))⟩
  aside := by
    rintro taken before after ⟨taking, counted⟩ aside
    exact ⟨sink.aside taking aside, counted.mute aside.mute⟩

/-! ## Writing at will -/

/-- To keep books of what is written, whatever that is. -/
def bookkeeping (flows : Stream → Prop) (takes : (Stream → Bytes) → Host → Prop)
    (held : Stream → Bytes) : Discipline :=
  .preserving fun host => ∃ pieces, Host.Ledger flows takes held pieces host

/-- The action keeps books of what it writes. -/
abbrev KeepsBooks {α : Type} (flows : Stream → Prop) (takes : (Stream → Bytes) → Host → Prop)
    (held : Stream → Bytes) (action : Action α) : Prop :=
  (bookkeeping flows takes held).Governs action fun _ => True

namespace KeepsBooks

variable {flows : Stream → Prop} {foreign : Nat → Prop} {takes : (Stream → Bytes) → Host → Prop}
  {held : Stream → Bytes} (sink : HardySink flows foreign takes)

include sink

theorem changed {change : Host → Host} (idles : ∀ host, Host.Idles host (change host)) :
    KeepsBooks flows takes held (modify change : Action PUnit) :=
  Discipline.Governs.changed fun host => fun ⟨pieces, ledger⟩ =>
    ⟨pieces, sink.idles ledger (idles host)⟩

theorem writeStream (stream : Stream) (bytes : Bytes) :
    KeepsBooks flows takes held (stream.write bytes) :=
  fun host ⟨_, ledger⟩ =>
    ⟨fun _ => ⟨_, sink.toSink.writeStream stream bytes host ledger⟩, trivial⟩

theorem log (logger : Logger) (level : Level) (message : String) :
    KeepsBooks flows takes held (logger.log level message) := by
  apply Discipline.Governs.look
  intro host booked
  split
  · apply (changed sink fun host => .note host fun _ _ => Event.noConfusion).bind _ host booked
    intro _ _
    cases logger.route level with
    | none => exact .value trivial
    | some output =>
        cases output with
        | standard stream => exact writeStream sink stream _
        | buffer number =>
            exact changed sink fun host => ⟨.of_same rfl rfl, rfl, rfl, rfl, rfl, rfl⟩
  · exact .value trivial

theorem debug (message : String) : KeepsBooks flows takes held (Log.debug message) := by
  apply Discipline.Governs.look
  intro host booked
  cases host.logger with
  | none => exact .value trivial
  | some logger => exact log sink logger .debug message host booked

end KeepsBooks

/-! ## The original targets -/

namespace Host

/-- All that was open originally is open and the same. -/
def Retains (original : OpenFiles) (host : Host) : Prop :=
  ∀ number, original number ≠ none → host.opened number = original number

theorem Aside.retains {foreign : Nat → Prop} {original : OpenFiles} {before after : Host}
    (aside : Aside foreign before after)
    (isForeign : ∀ number, original number ≠ none → foreign number)
    (retains : Retains original before) : Retains original after := by
  intro number used
  have same := congrArg (Option.map Descriptor.file) (aside.numbers number (isForeign number used))
  exact same.trans (retains number used)

/-- The streams refer to `files`, the streams that take what is written have taken `taken`
since `base`, and all that was open originally is the same. -/
def Reaching (original : OpenFiles) (base : Host) (files : PerStream OpenFile)
    (taken : Stream → Bytes) (host : Host) : Prop :=
  Passing original.Flows base files taken host ∧ Retains original host

section

variable {original : OpenFiles} {files : PerStream OpenFile}
  (found : ∀ stream : Stream, original stream.number = some (files.get stream))

include found

theorem Retains.finds {host : Host} (retains : Retains original host) (stream : Stream) :
    host.opened stream.number = some (files.get stream) :=
  (retains _ (by simp [found stream])).trans (found stream)

/-- At first nothing has been written. -/
theorem reaching_initially {base : Host} (retains : Retains original base) :
    Ledger original.Flows (Reaching original base files) base.heldBack (fun _ => []) base := by
  refine ⟨fun _ => [], ⟨⟨Retains.finds found retains, ?_, ?_, ?_⟩, retains⟩,
    fun stream _ => .initially base stream⟩
  · exact fun stream takes => takes.kept retains
  · exact List.suffix_refl _
  · exact fun stream _ => base.passedSince_self _ _

/-- While the streams refer to their original targets, hosts are a hardy sink for the streams
that take what is written, and for sessions to which all that was open originally is
foreign. -/
theorem reaching_hardy {foreign : Nat → Prop}
    (isForeign : ∀ number, original number ≠ none → foreign number) (base : Host) :
    HardySink original.Flows foreign (Reaching original base files) where
  toSink := by
    apply (passing_sink original.Flows base files).keeping
    · intro taken host stream bytes _ retains number used
      rw [(SystemCall.write_utterances stream.number bytes host).still.1]
      exact retains number used
    · exact fun lineBuffer retains => retains
  turn := by
    rintro taken host ⟨passing, retains⟩
    have ran := readersRan_takeTurn host
    have opened := ran.still.1
    refine ⟨⟨opened ▸ passing.found, opened ▸ passing.takes, ran.journal ▸ passing.grown, ?_⟩, ?_⟩
    · rw [passedSince_of_journal ran.journal]
      exact passing.passed
    · exact fun number used => opened ▸ retains number used
  aside := by
    rintro taken before after ⟨passing, retains⟩ aside
    have retained := aside.retains isForeign retains
    refine ⟨⟨Retains.finds found retained, fun stream takes => takes.kept retained,
      passing.grown.trans aside.mute.grown, fun stream takes => ?_⟩, retained⟩
    rw [aside.mute.passedSince passing.grown]
    exact passing.passed stream takes

end

end Host

end CompileDriver
