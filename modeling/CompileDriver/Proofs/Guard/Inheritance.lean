import CompileDriver.Host.Start
import CompileDriver.Proofs.Guard.Spares
import CompileDriver.Proofs.Guard.Steps
import CompileDriver.Proofs.Host.Inheritance

/-!
# Guards keep what they hold to themselves

Whatever a process does with suppressors, scopes and captures, and however that fails, the
programs that it starts receive the streams as they are at that moment.  Of the descriptors
that guards hold, the copies of streams and the ends of pipes, they receive none.

The numbers that a guard holds can be read off the guard.  Each use of a guard balances them.
-/

namespace CompileDriver

open Routine (call)

/-! ## What guards hold -/

/-- The copy of the stream. -/
def Scope.numbers (scope : Scope) : Multiset Nat :=
  scope.saved.elim 0 ({·})

/-- The copy of the stream and both ends of the pipe. -/
def Tap.numbers (tap : Tap) : Multiset Nat :=
  tap.scope.numbers + ({tap.writer} + {tap.source})

def Capture.numbers (capture : Capture) : Multiset Nat :=
  capture.taps.elim 0 fun taps => taps.stdout.numbers + taps.stderr.numbers

def Suppressor.numbers (suppressor : Suppressor) : Multiset Nat :=
  suppressor.scope.elim 0 Scope.numbers

def Guard.numbers : Guard → Multiset Nat
  | .suppressor guard => guard.numbers
  | .scope guard => guard.numbers
  | .capture guard => guard.numbers

/-- All that is held by guards. -/
def Guards.numbers (guards : Guards) : Multiset Nat :=
  (guards.map fun guard => guard.elim 0 Guard.numbers).sum

theorem Scope.numbers_restored {scope : Scope} (restored : scope.saved = none) :
    scope.numbers = 0 := by
  rw [numbers, restored]
  rfl

theorem Suppressor.numbers_restored {suppressor : Suppressor} (restored : suppressor.scope = none) :
    suppressor.numbers = 0 := by
  rw [numbers, restored]
  rfl

theorem Capture.numbers_stopped {capture : Capture} (stopped : capture.taps = none) :
    capture.numbers = 0 := by
  rw [numbers, stopped]
  rfl

namespace Guards

theorem numbers_append (guards : Guards) (guard : Guard) :
    numbers (guards ++ [some guard]) = guard.numbers + guards.numbers := by
  simp [numbers, add_comm]

/-- Where a guard is replaced, the others hold what they held. -/
theorem numbers_set {guards : Guards} {number : Nat} {guard : Guard}
    (found : guards.guard? number = some guard) :
    ∃ others, guards.numbers = guard.numbers + others ∧ ∀ next : Option Guard,
      numbers (guards.set number next) = next.elim 0 Guard.numbers + others := by
  induction guards generalizing number with
  | nil => simp [guard?] at found
  | cons first rest ih =>
      cases number with
      | zero =>
          obtain rfl : first = some guard := by simpa [guard?] using found
          exact ⟨numbers rest, by simp [numbers], fun next => by simp [numbers]⟩
      | succ number =>
          obtain ⟨others, before, after⟩ := ih (by simpa [guard?] using found)
          refine ⟨first.elim 0 Guard.numbers + others, ?_, fun next => ?_⟩
          · rw [add_left_comm, ← before]
            simp [numbers]
          · rw [add_left_comm, ← after]
            simp [numbers]

end Guards

/-! ## Scopes -/

namespace Balances

variable {origin : DescriptorTable} {held : Multiset Nat}

theorem flush (stream : Stream) :
    Balances origin held (call stream.flush) fun _ => held :=
  .speaks (Speaks.flush (fun _ => not_false) stream)

theorem saving (stream : Stream) :
    Balances origin held (Scope.saving stream)
      (heldAfter held fun scope => scope.numbers + held) := by
  refine (flush stream).bind fun _ => (duplicate stream.number).bind fun outcome => ?_
  cases outcome with
  | error error => exact .pure rfl
  | ok copy => exact .pure rfl

/-- A scope that has been restored holds nothing, in whatever way that is counted. -/
theorem restoring (scope : Scope) {left : Scope → Multiset Nat}
    (ended : ∀ restored : Scope, restored.numbers = 0 → left restored = held) :
    Balances origin (scope.numbers + held) scope.restoring left := by
  unfold Scope.restoring
  cases saved : scope.saved with
  | none =>
      have nothing := Scope.numbers_restored saved
      exact .pure (by rw [ended scope nothing, nothing, zero_add])
  | some copy =>
      refine .regroup ?_ (by rw [Scope.numbers, saved, Option.elim_some])
      refine (flush scope.stream).bind fun _ => (giveBack copy scope.stream).bind fun _ => ?_
      exact (close copy).bind fun _ => .pure (ended _ rfl).symm

theorem redirectTo (scope : Scope) (number : Nat) :
    Balances origin held (call (scope.redirectTo number)) fun _ => held :=
  redirect number scope.stream

theorem redirectingToOpened (scope : Scope) {opening : Action (Except OsError Nat)}
    (opens : Balances origin held (call opening) (heldAfter held fun number => {number} + held)) :
    Balances origin held (scope.redirectingToOpened opening) fun _ => held := by
  refine opens.bind fun opened => ?_
  cases opened with
  | error error => exact .pure rfl
  | ok number => exact (redirectTo scope number).bind fun _ => close number

theorem redirectingAt (scope : Scope) (target : Target) :
    Balances origin held (scope.redirectingAt target) fun _ => held := by
  cases target with
  | number number => exact (redirectTo scope number).bind fun _ => .pure rfl
  | discardDevice => exact redirectingToOpened scope (openAs _)
  | file path => exact redirectingToOpened scope (openAppending path)

/-! ## Suppressors -/

theorem discarding (stream : Stream) :
    Balances origin held (Suppressor.discarding stream)
      (heldAfter held fun scope => scope.numbers + held) := by
  refine (saving stream).bind fun saved => ?_
  cases saved with
  | error error => exact .pure rfl
  | ok scope =>
      refine (openAs _).bind fun opened => ?_
      cases opened with
      | error error => exact (restoring scope fun _ _ => rfl).bind fun _ => .pure rfl
      | ok device =>
          refine (redirectTo scope device).bind fun redirected => ?_
          cases redirected with
          | error error =>
              refine (close device).bind fun _ => ?_
              exact (restoring scope fun _ _ => rfl).bind fun _ => .pure rfl
          | ok done => exact (close device).bind fun _ => .pure rfl

theorem engaging (stream : Stream) (wanted : Bool) :
    Balances origin held (Suppressor.engaging stream wanted)
      fun suppressor => suppressor.numbers + held := by
  have inert : held = (Suppressor.inert stream).numbers + held := (zero_add held).symm
  cases wanted with
  | false => exact .pure inert
  | true =>
      refine (discarding stream).bind fun outcome => ?_
      cases outcome with
      | error error =>
          exact (speaks (Speaks.debug (fun _ => not_false) _)).bind fun _ => .pure inert
      | ok scope => exact .pure rfl

theorem restoringSuppressor (suppressor : Suppressor) {left : Suppressor → Multiset Nat}
    (ended : ∀ restored : Suppressor, restored.numbers = 0 → left restored = held) :
    Balances origin (suppressor.numbers + held) suppressor.restoring left := by
  unfold Suppressor.restoring
  cases active : suppressor.scope with
  | none =>
      have nothing := Suppressor.numbers_restored active
      exact .pure (by rw [ended suppressor nothing, nothing, zero_add])
  | some scope =>
      refine .regroup ?_ (by rw [Suppressor.numbers, active, Option.elim_some])
      exact (restoring scope fun _ _ => rfl).bind fun _ => .pure (ended _ rfl).symm

/-! ## Captures -/

theorem askToStop (tap : Tap) :
    Balances origin held (call (Capture.askToStop tap)) fun _ => held := by
  unfold Capture.askToStop
  split
  · exact steady (.value trivial)
  · exact steady (.changed fun _ => rfl)

theorem joinTap (tap : Tap) :
    Balances origin held (call (Capture.joinTap tap)) fun _ => held := by
  refine steady ?_
  unfold Capture.joinTap
  split
  · exact .value trivial
  · have joined (thread : Nat) : steadiness.Governs (SystemCall.joinReader thread) fun _ => True :=
      fun host _ => ⟨host.table_join thread, trivial⟩
    refine (joined _).bind fun reader _ => ?_
    split
    · exact .value trivial
    · split <;> exact .value trivial

theorem reportEarlyEnd (stream : Stream) (early : Option OsError) :
    Balances origin held (call (Capture.reportEarlyEnd stream early)) fun _ => held :=
  speaks (Speaks.reportEarlyEnd (fun _ => not_false) stream early)

/-- The taps of a capture that is stopped are given back in the order in which it closes. -/
theorem stopping (capture : Capture) {left : Capture → Multiset Nat}
    (ended : ∀ stopped : Capture, stopped.numbers = 0 → left stopped = held) :
    Balances origin (capture.numbers + held) capture.stopping left := by
  unfold Capture.stopping
  cases active : capture.taps with
  | none =>
      have nothing := Capture.numbers_stopped active
      exact .pure (by rw [ended capture nothing, nothing, zero_add])
  | some taps =>
      have order : capture.numbers + held =
          taps.stdout.scope.numbers + (taps.stderr.scope.numbers + ({taps.stdout.writer} +
            ({taps.stderr.writer} + ({taps.stdout.source} + ({taps.stderr.source} + held))))) := by
        rw [Capture.numbers, active]
        simp only [Option.elim_some, Tap.numbers]
        abel
      refine .regroup ?_ order
      refine (askToStop _).bind fun _ => (askToStop _).bind fun _ => ?_
      refine (restoring _ fun _ _ => rfl).bind fun _ => ?_
      refine (restoring _ fun _ _ => rfl).bind fun _ => ?_
      refine (close _).bind fun _ => (close _).bind fun _ => ?_
      refine (joinTap _).bind fun _ => (joinTap _).bind fun _ => ?_
      refine (close _).bind fun _ => (close _).bind fun _ => ?_
      refine (reportEarlyEnd _ _).bind fun _ => (reportEarlyEnd _ _).bind fun _ => ?_
      exact .pure (ended _ rfl).symm

theorem closingPipe (ends : Nat × Nat) :
    Balances origin ({ends.1} + ({ends.2} + held)) (Capture.closingPipe ends) fun _ => held :=
  (close ends.1).bind fun _ => close ends.2

theorem startingTap (tap : Tap) (nonblocking : Bool) :
    Balances origin held (Capture.startingTap tap nonblocking) fun _ => held := by
  cases nonblocking with
  | false => exact startReader tap.source
  | true =>
      refine (setPolling tap.source).bind fun switched => ?_
      cases switched with
      | error error => exact .pure rfl
      | ok done => exact startReader tap.source

theorem startingReaders (capture : Capture) (taps : PerStream Tap) :
    Balances origin (taps.stdout.numbers + taps.stderr.numbers + held)
      (capture.startingReaders taps) fun reached => reached.2.numbers + held := by
  have stopped (taps : PerStream Tap) (error : CaptureError) :
      Balances origin (taps.stdout.numbers + taps.stderr.numbers + held)
        (do
          let stopped ← { capture with taps := some taps }.stopping
          return (Except.error error, stopped))
        fun reached : Except CaptureError Unit × Capture => reached.2.numbers + held := by
    refine (stopping { capture with taps := some taps } fun stopped ended => ?_).bind
      fun stopped => .pure rfl
    rw [ended, zero_add]
  refine (startingTap taps.stdout _).bind fun first => ?_
  cases first with
  | error error => exact stopped taps _
  | ok first =>
      refine (startingTap taps.stderr _).bind fun second => ?_
      cases second with
      | error error =>
          exact stopped { taps with stdout := { taps.stdout with thread := some first } } _
      | ok second => exact .pure rfl

theorem redirectingBoth (writers : PerStream Nat) :
    Balances origin held (Capture.redirectingBoth writers)
      (heldAfter held fun scopes => scopes.stderr.numbers + (scopes.stdout.numbers + held)) := by
  refine (saving .stdout).bind fun first => ?_
  cases first with
  | error error => exact .pure rfl
  | ok stdout =>
      refine (saving .stderr).bind fun second => ?_
      cases second with
      | error error => exact (restoring stdout fun _ _ => rfl).bind fun _ => .pure rfl
      | ok stderr =>
          have undone (error : CaptureError) :
              Balances origin (stderr.numbers + (stdout.numbers + held))
                (do
                  let _ ← stderr.restoring
                  let _ ← stdout.restoring
                  return (Except.error error : Except CaptureError (PerStream Scope)))
                (heldAfter held fun scopes =>
                  scopes.stderr.numbers + (scopes.stdout.numbers + held)) := by
            refine (restoring stderr fun _ _ => rfl).bind fun _ => ?_
            exact (restoring stdout fun _ _ => rfl).bind fun _ => .pure rfl
          refine (redirectTo stdout _).bind fun redirected => ?_
          cases redirected with
          | error error => exact undone _
          | ok done =>
              refine (redirectTo stderr _).bind fun redirected => ?_
              cases redirected with
              | error error => exact undone _
              | ok done => exact .pure rfl

theorem starting (capture : Capture) :
    Balances origin (capture.numbers + held) capture.starting
      fun reached => reached.2.numbers + held := by
  unfold Capture.starting
  split
  · exact .pure rfl
  · rename_i inactive
    have nothing : capture.numbers + held = held := by
      rw [Capture.numbers_stopped (by simpa [Capture.isActive] using inactive), zero_add]
    have failed (error : CaptureError) :
        Balances origin held (pure (.error error, capture))
          fun reached : Except CaptureError Unit × Capture => reached.2.numbers + held :=
      .pure nothing.symm
    refine .regroup ?_ nothing
    refine pipe.bind fun outcome => ?_
    cases outcome with
    | error error => exact failed _
    | ok stdoutPipe =>
        refine pipe.bind fun outcome => ?_
        cases outcome with
        | error error => exact (closingPipe stdoutPipe).bind fun _ => failed _
        | ok stderrPipe =>
            refine (redirectingBoth _).bind fun redirected => ?_
            cases redirected with
            | error error =>
                refine (closingPipe stderrPipe).bind fun _ => ?_
                exact (closingPipe stdoutPipe).bind fun _ => failed _
            | ok scopes =>
                refine .regroup (startingReaders capture _) ?_
                simp only [heldAfter, Tap.numbers]
                abel

/-! ## Guards -/

theorem finishing (guard : Guard) {left : Guard → Multiset Nat}
    (ended : ∀ finished : Guard, finished.numbers = 0 → left finished = held) :
    Balances origin (guard.numbers + held) guard.finishing left := by
  cases guard with
  | suppressor guard =>
      exact (restoringSuppressor guard fun restored => ended (.suppressor restored)).bind
        fun _ => .pure rfl
  | scope guard =>
      exact (restoring guard fun restored => ended (.scope restored)).bind fun _ => .pure rfl
  | capture guard =>
      exact (stopping guard fun stopped => ended (.capture stopped)).bind fun _ => .pure rfl

theorem finishingBy (guard : Guard) (how : Finish) :
    Balances origin (guard.numbers + held) (guard.finishingBy how)
      fun kept => kept.elim 0 Guard.numbers + held := by
  cases how with
  | called =>
      refine (finishing guard fun finished ended => ?_).bind fun finished => .pure rfl
      exact (congrArg (· + held) ended).trans (zero_add held)
  | dropped | taken =>
      exact (finishing guard fun _ _ => rfl).bind fun _ => .pure (zero_add held).symm

theorem performing (guards : Guards) (use : GuardUse) :
    Balances origin guards.numbers (use.performing guards) Guards.numbers := by
  cases use with
  | suppress stream wanted =>
      exact (engaging stream wanted).bind fun suppressor =>
        .pure (guards.numbers_append (.suppressor suppressor)).symm
  | saveScope stream =>
      refine (saving stream).bind fun saved => ?_
      cases saved with
      | error error => exact .pure rfl
      | ok scope => exact .pure (guards.numbers_append (.scope scope)).symm
  | makeCapture nonblocking =>
      exact .pure ((guards.numbers_append _).trans (zero_add _)).symm
  | start number =>
      dsimp only [GuardUse.performing]
      split
      · rename_i capture found
        obtain ⟨others, before, after⟩ := Guards.numbers_set found
        exact .regroup ((starting capture).bind fun reached =>
          .pure (after (some (.capture reached.2))).symm) before
      · exact .pure rfl
  | redirect number target =>
      dsimp only [GuardUse.performing]
      split
      · rename_i scope found
        exact (redirectingAt scope target).bind fun _ => .pure rfl
      · exact .pure rfl
  | finish number how =>
      dsimp only [GuardUse.performing]
      split
      · rename_i guard found
        obtain ⟨others, before, after⟩ := Guards.numbers_set found
        exact .regroup ((finishingBy guard how).bind fun kept => .pure (after kept).symm) before
      · exact .pure rfl
  | write stream bytes =>
      exact (speaks (Speaks.writeStream (fun _ => not_false) stream bytes)).bind fun _ => .pure rfl
  | child launcher invocation =>
      exact (steady (steadiness_letsRun.inheriting launcher invocation)).bind fun _ => .pure rfl

theorem stepwise (guards : Guards) (uses : List GuardUse) :
    Balances origin guards.numbers (guards.stepwise uses) Guards.numbers := by
  induction uses generalizing guards with
  | nil => exact .pure rfl
  | cons first rest ih => exact (performing guards first).bind fun reached => ih reached

end Balances

/-! ## Programs -/

/-- A number that is not that of a stream. -/
def OffStreams (number : Nat) : Prop :=
  ∀ stream : Stream, number ≠ stream.number

/-- What a program receives that is started now, by a process that was `before` when it first
used a guard. -/
structure ReceivesStreams (before now : Host) : Prop where
  /-- It receives the streams as they are. -/
  streams : ∀ stream : Stream, ∃ file, now.opened stream.number = some file ∧
    now.table.passedOn stream.number = some file
  launched : Spawn.closedStreams now = []
  /-- Apart from them it receives what it would have received before. -/
  others : ∀ number, OffStreams number → now.table.passedOn number = before.table.passedOn number
  /-- What has been opened since is not inherited. -/
  opened : ∀ number, OffStreams number → now.table.get? number = before.table.get? number ∨
    before.table.get? number = none ∧ ∃ file, now.table.get? number = some ⟨file, false⟩

/-- What guards hold has been opened since `before`, and is not inherited. -/
structure Guards.KeepHidden (guards : Guards) (before now : Host) : Prop where
  apart : guards.numbers.Nodup
  held : ∀ number ∈ guards.numbers, OffStreams number ∧ before.table.get? number = none ∧
    ∃ file, now.table.get? number = some ⟨file, false⟩
  others : ∀ number, OffStreams number → number ∉ guards.numbers →
    now.table.get? number = before.table.get? number

namespace Guarded

variable {before now : Host} {held : Multiset Nat}

theorem opened (guarded : Guarded before.table held now.table) (number : Nat)
    (apart : OffStreams number) : now.table.get? number = before.table.get? number ∨
      before.table.get? number = none ∧ ∃ file, now.table.get? number = some ⟨file, false⟩ := by
  by_cases member : number ∈ held
  · exact .inr ⟨guarded.wasFree number member, guarded.hidden number member⟩
  · exact .inl (guarded.others number apart member)

theorem receivesStreams (guarded : Guarded before.table held now.table) :
    ReceivesStreams before now := by
  have streams (stream : Stream) : ∃ file, now.opened stream.number = some file ∧
      now.table.passedOn stream.number = some file := by
    obtain ⟨file, found⟩ := guarded.streams stream
    exact ⟨file, now.table.file?_of_get? found, (now.table.passedOn_eq_some_iff _ _).mpr found⟩
  constructor
  · exact streams
  · refine List.eq_nil_iff_forall_not_mem.mpr fun stream closed => ?_
    obtain ⟨file, -, received⟩ := streams stream
    cases received.symm.trans ((Spawn.mem_closedStreams_iff now stream).mp closed)
  · intro number apart
    rcases guarded.opened number apart with same | ⟨wasFree, file, hidden⟩
    · rw [DescriptorTable.passedOn, DescriptorTable.passedOn, same]
    · rw [DescriptorTable.passedOn, DescriptorTable.passedOn, wasFree, hidden]
      rfl
  · exact guarded.opened

theorem keepHidden {guards : Guards}
    (guarded : Guarded before.table guards.numbers now.table) : guards.KeepHidden before now where
  apart := guarded.apart
  held number member :=
    ⟨guarded.ne_stream member, guarded.wasFree number member, guarded.hidden number member⟩
  others := guarded.others

end Guarded

/-- Programs receive the streams and nothing that belongs to a guard.  However suppressors,
scopes and captures are used, in any order and in steps between which others write and readers
move, in every state that is reached the streams are open and inherited, and all that has been
opened since is not. -/
theorem programs_receive_streams_only (uses : List GuardUse) {before now : Host}
    (inherited : ∀ stream : Stream, before.table.passedOn stream.number ≠ none)
    {left : Routine Guards}
    (reaches : Routine.Reaches (Guards.stepwise [] uses) before left now) :
    (Guards.stepwise [] uses).perform = Guards.use [] uses ∧ ReceivesStreams before now ∧
      ∀ guards, left = .done guards → guards.KeepHidden before now := by
  obtain ⟨⟨held, guarded⟩, ended⟩ :=
    (Balances.stepwise [] uses).reached (Guarded.initially inherited) reaches
  refine ⟨Guards.perform_stepwise [] uses, guarded.receivesStreams, fun guards finished => ?_⟩
  exact (ended guards finished).keepHidden

/-- A capture that is stopped while a suppressor within it is still engaged.  Its own writing ends
are closed and the streams are restored, but the suppressor has a copy of one, which no program
receives. -/
theorem programs_receive_streams_only_crossed :
    let uses : List GuardUse :=
      [.makeCapture true, .start 0, .suppress .stdout true, .finish 0 .called]
    let before := Host.start [] [] []
    let reached := (Guards.stepwise [] uses).advance 27 before
    (∀ stream : Stream, reached.2.opened stream.number = some (.initial stream)) ∧
      reached.2.opened 9 = some (.pipeWriter 0) ∧
      reached.2.table.passedOn 9 = none ∧
      ReceivesStreams before reached.2 := by
  intro uses before reached
  have inherited (stream : Stream) : before.table.passedOn stream.number ≠ none := by
    cases stream <;> exact nofun
  have reaches : Routine.Reaches (Guards.stepwise [] uses) before reached.1 reached.2 :=
    (Routine.Reaches.refl _ _).advance 27
  refine ⟨?_, by decide +kernel, by decide +kernel, ?_⟩
  · intro stream
    cases stream <;> decide +kernel
  · exact (programs_receive_streams_only uses inherited reaches).2.1

end CompileDriver
