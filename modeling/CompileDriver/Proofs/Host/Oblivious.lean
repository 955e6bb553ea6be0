import CompileDriver.Host.StandardStream
import CompileDriver.Proofs.Action

/-!
# The journal is not read

The journal tells what has happened, and nobody looks into it.  So a host with another past
behind its journal does the same: `withPast` puts one there, and it commutes with everything
that hosts and their threads do.  An action is oblivious if that holds of it, too.
-/

namespace CompileDriver

namespace Host

/-- The host, with something that has happened before all that the journal tells. -/
abbrev withPast (host : Host) (past : List Moment) : Host :=
  { host with journal := host.journal ++ past }

variable (host : Host) (past : List Moment)

@[simp]
theorem table_withPast : (host.withPast past).table = host.table :=
  rfl

@[simp]
theorem queue_withPast (pipe : Nat) : (host.withPast past).queue pipe = host.queue pipe :=
  rfl

/-! ## Threads -/

theorem attempt_withPast (source atMost : Nat) :
    (host.withPast past).attempt source atMost =
      ((host.attempt source atMost).1, (host.attempt source atMost).2.withPast past) := by
  unfold attempt
  simp only [queue_withPast]
  split
  · split
    · rename_i pipe _ _ _
      by_cases writable : host.table.refersTo (.pipeWriter pipe) = true
      · rw [if_pos writable, if_pos writable]
      · rw [if_neg writable, if_neg writable]
    · rfl
  · rfl
  · rfl

theorem moveReader_withPast (reader : Reader) (move : ReaderMove) :
    (host.withPast past).moveReader reader move =
      ((host.moveReader reader move).1.withPast past, (host.moveReader reader move).2) := by
  unfold moveReader
  split
  · cases move with
    | read atMost => simp only [moveOutcome, attempt_withPast]
    | wouldBlock | interrupted | fail => rfl
  · rfl

theorem move_withPast (thread : Nat) (move : ReaderMove) :
    (host.withPast past).move thread move = (host.move thread move).withPast past := by
  unfold Host.move
  rw [show (host.withPast past).reader? thread = host.reader? thread from rfl]
  cases host.reader? thread with
  | none => rfl
  | some reader =>
      simp only [moveReader_withPast]
      rfl

theorem playRound_withPast (round : Round) :
    (host.withPast past).playRound round = (host.playRound round).withPast past := by
  unfold playRound
  induction round generalizing host with
  | nil => rfl
  | cons step rest ih =>
      obtain ⟨thread, move⟩ := step
      rw [List.foldl_cons, List.foldl_cons]
      dsimp only
      rw [move_withPast, ih]

theorem readOften_withPast (thread times : Nat) :
    (host.withPast past).readOften thread times = (host.readOften thread times).withPast past := by
  induction times generalizing host with
  | zero => rfl
  | succ times ih => rw [readOften, readOften, move_withPast, ih]

theorem settle_withPast : (host.withPast past).settle = host.settle.withPast past := by
  have each (readers : List Reader) (state : Host) :
      readers.foldl
          (fun state reader => state.readOften reader.thread (state.readsNeeded reader))
          (state.withPast past) =
        (readers.foldl
          (fun state reader => state.readOften reader.thread (state.readsNeeded reader))
          state).withPast past := by
    induction readers generalizing state with
    | nil => rfl
    | cons reader rest ih =>
        rw [List.foldl_cons, List.foldl_cons, readOften_withPast]
        exact ih _
  exact each host.readers host

theorem takeTurn_withPast : (host.withPast past).takeTurn = host.takeTurn.withPast past := by
  unfold takeTurn
  rw [show (host.withPast past).schedule = host.schedule from rfl]
  cases host.schedule with
  | nil => exact host.settle_withPast past
  | cons round rest => exact playRound_withPast { host with schedule := rest } past round

theorem endCall_withPast : (host.withPast past).endCall = host.endCall.withPast past :=
  takeTurn_withPast (host.note .systemCall) past

theorem playUntil_withPast {holds : Host → Bool}
    (blind : ∀ host past, holds (withPast host past) = holds host) (rounds : List Round) :
    (host.withPast past).playUntil holds rounds = (host.playUntil holds rounds).withPast past := by
  induction rounds generalizing host with
  | nil =>
      have same := blind { host with schedule := [] } past
      unfold playUntil
      dsimp only
      rw [show { host.withPast past with schedule := [] } =
        withPast { host with schedule := [] } past from rfl, same]
      split
      · rfl
      · exact settle_withPast _ past
  | cons round rest ih =>
      unfold playUntil
      rw [blind]
      split
      · rfl
      · rw [playRound_withPast, ih]

theorem await_withPast {holds : Host → Bool}
    (blind : ∀ host past, holds (withPast host past) = holds host) :
    (host.withPast past).await holds = (host.await holds).withPast past :=
  playUntil_withPast host past blind host.schedule

/-! ## Writing -/

theorem push_withPast (pipe : Nat) (bytes : Bytes) :
    (host.withPast past).push pipe bytes = (host.push pipe bytes).withPast past :=
  takeTurn_withPast (host.setQueue pipe (host.queue pipe ++ bytes.take (host.room pipe))) past

theorem feed_withPast (pipe : Nat) (bytes : Bytes) :
    feed pipe (host.withPast past) bytes = (feed pipe host bytes).withPast past := by
  have waited (host : Host) : (host.withPast past).await (fun host => 0 < host.room pipe) =
      (host.await fun host => 0 < host.room pipe).withPast past :=
    await_withPast host past fun _ _ => rfl
  have sameRoom (host : Host) : (host.withPast past).room pipe = host.room pipe := rfl
  fun_induction feed pipe host bytes with
  | case1 host => rw [feed]
  | case2 host first rest ready full =>
      rw [feed, waited, sameRoom, full]
  | case3 host first rest ready more space ih =>
      rw [feed, waited, sameRoom, space]
      dsimp only
      rw [push_withPast, ih]

theorem deliver_withPast (file : OpenFile) (bytes : Bytes) :
    (host.withPast past).deliver file bytes =
      ((host.deliver file bytes).1, (host.deliver file bytes).2.withPast past) := by
  cases file with
  | initial stream =>
      exact congrArg (Except.ok (), ·) (takeTurn_withPast
        { host with received := host.received.modify stream (· ++ bytes) } past)
  | entry opening place =>
      exact congrArg (Except.ok (), ·) (takeTurn_withPast
        { host with files := host.files.append place bytes } past)
  | discard opening => exact congrArg (Except.ok (), ·) (host.takeTurn_withPast past)
  | emptyInput | pipeReader =>
      exact congrArg (Except.error OsError.badDescriptor, ·) (host.takeTurn_withPast past)
  | pipeWriter pipe =>
      unfold deliver
      dsimp only
      rw [table_withPast]
      cases host.table.refersTo (.pipeReader pipe) with
      | true => exact congrArg (Except.ok (), ·) (host.feed_withPast past pipe bytes)
      | false => exact congrArg (Except.error OsError.brokenPipe, ·) (host.takeTurn_withPast past)

end Host

/-! ## Actions -/

variable {α β : Type}

/-- Another past makes no difference to the action. -/
def Oblivious (action : Action α) : Prop :=
  ∀ (host : Host) (past : List Moment),
    action (host.withPast past) = ((action host).1, (action host).2.withPast past)

namespace Oblivious

theorem value {value : α} : Oblivious (pure value : Action α) :=
  fun _ _ => rfl

theorem bind {action : Action α} {next : α → Action β} (first : Oblivious action)
    (rest : ∀ value, Oblivious (next value)) : Oblivious (action >>= next) := by
  intro host past
  rw [Action.bind_apply, Action.bind_apply, first host past]
  exact rest _ _ past

/-- What follows a look at the host does not look at its journal. -/
theorem look {next : Host → Action β}
    (blind : ∀ host past, next (Host.withPast host past) = next host)
    (rest : ∀ host, Oblivious (next host)) : Oblivious (get >>= next) := by
  intro host past
  rw [Action.bind_apply, Action.bind_apply, Action.get_apply, Action.get_apply]
  dsimp only
  rw [blind]
  exact rest host host past

/-- A change that keeps the journal, or adds to it. -/
theorem changed {change : Host → Host}
    (same : ∀ host past, change (Host.withPast host past) = (change host).withPast past) :
    Oblivious (modify change : Action PUnit) :=
  fun host past => congrArg (PUnit.unit, ·) (same host past)

theorem discarded {action : Action α} (oblivious : Oblivious action) :
    Oblivious (discard action : Action PUnit) := by
  intro host past
  rw [Action.discard_apply, Action.discard_apply, oblivious host past]

theorem each {list : List α} {action : α → Action PUnit}
    (oblivious : ∀ value, Oblivious (action value)) : Oblivious (list.forM action) := by
  induction list with
  | nil => exact .value
  | cons value rest ih => exact (oblivious value).bind fun _ => ih

/-! ### System calls -/

theorem perform {call : Host → Except OsError (α × Host)}
    (blind : ∀ host past, call (Host.withPast host past) =
      (call host).map fun reached => (reached.1, reached.2.withPast past)) :
    Oblivious (SystemCall.perform call) := by
  intro host past
  simp only [SystemCall.perform, Action.bind_apply, Action.get_apply]
  rw [blind]
  cases call host with
  | error error => exact congrArg (Except.error error, ·) (host.endCall_withPast past)
  | ok reached => exact congrArg (Except.ok reached.1, ·) (reached.2.endCall_withPast past)

theorem acquire {call : Host → Except OsError (α × Host)}
    (blind : ∀ host past, call (Host.withPast host past) =
      (call host).map fun reached => (reached.1, reached.2.withPast past)) :
    Oblivious (SystemCall.acquire call) := by
  intro host past
  simp only [SystemCall.acquire, Action.bind_apply, Action.get_apply]
  cases refused : host.refusals with
  | nil => exact perform blind host past
  | cons first rest =>
      cases first with
      | none => exact perform blind { host with refusals := rest } past
      | some error =>
          exact congrArg (Except.error error, ·)
            (Host.endCall_withPast { host with refusals := rest } past)

theorem giveBack (saved target : Nat) : Oblivious (SystemCall.giveBack saved target) := by
  apply perform
  intro host past
  unfold Host.redirect
  rw [Host.table_withPast]
  cases host.table.get? saved with
  | none => rfl
  | some descriptor =>
      dsimp only
      split
      · rfl
      · rfl

theorem openAs (file : Nat → OpenFile) : Oblivious (SystemCall.openAs file) := by
  apply acquire
  intro host past
  have sameNumber : (host.withPast past).nextNumber = host.nextNumber := rfl
  unfold Host.openAs Host.allocate
  rw [sameNumber]
  cases host.nextNumber with
  | error error => rfl
  | ok number => rfl

theorem close (number : Nat) : Oblivious (SystemCall.close number) :=
  changed fun host past => Host.endCall_withPast { host with table := host.table.close number } past

theorem write (number : Nat) (bytes : Bytes) : Oblivious (SystemCall.write number bytes) := by
  intro host past
  simp only [SystemCall.write, Action.bind_apply, Action.get_apply]
  rw [host.table_withPast past]
  cases host.table.file? number with
  | none => exact congrArg (Except.error OsError.badDescriptor, ·) (host.takeTurn_withPast past)
  | some file =>
      dsimp only
      rw [host.deliver_withPast past file bytes]
      cases (host.deliver file bytes).1 with
      | ok done => rfl
      | error error => rfl

theorem elapsed : Oblivious SystemCall.elapsed := by
  intro host past
  simp only [SystemCall.elapsed, Action.bind_apply, Action.get_apply]
  cases host.measurements with
  | nil => rfl
  | cons time rest => rfl

/-! ### Streams and the log -/

theorem writeOut (stream : Stream) (bytes : Bytes) : Oblivious (stream.writeOut bytes) := by
  refine (write stream.number bytes).bind fun outcome => ?_
  cases outcome with
  | ok done => exact .value
  | error error => exact .value

theorem flushLines : Oblivious Stream.flushLines := by
  refine look (fun _ _ => rfl) fun host => ?_
  split
  · exact .value
  · refine (writeOut .stdout host.lineBuffer).bind fun written => ?_
    cases written with
    | true => exact (changed fun _ _ => rfl).bind fun _ => .value
    | false => exact .value

theorem bufferLine (bytes : Bytes) : Oblivious (Stream.bufferLine bytes) := by
  have placed (flushed : Bool) : Oblivious
      (if !flushed then return false
        else if lineBufferCapacity ≤ bytes.length then Stream.writeOut .stdout bytes
        else do
          modify fun host => { host with lineBuffer := host.lineBuffer ++ bytes }
          return true) := by
    split
    · exact .value
    · split
      · exact writeOut .stdout bytes
      · exact (changed fun _ _ => rfl).bind fun _ => .value
  intro host past
  unfold Stream.bufferLine
  rw [Action.bind_apply, Action.bind_apply, Action.get_apply, Action.get_apply]
  dsimp only
  by_cases fits : host.lineBuffer.length + bytes.length < lineBufferCapacity
  · rw [if_pos fits, if_pos fits]
    rfl
  · rw [if_neg fits, if_neg fits]
    split
    · exact flushLines.bind placed host past
    · exact placed true host past

theorem writeComplete (lines : Bytes) : Oblivious (Stream.writeComplete lines) := by
  refine look (fun _ _ => rfl) fun host => ?_
  dsimp only
  split
  · split
    · exact flushLines
    · exact .value
  · split
    · exact writeOut .stdout lines
    · refine (bufferLine lines).bind fun buffered => ?_
      cases buffered with
      | true => exact flushLines
      | false => exact .value

theorem writeStream (stream : Stream) (bytes : Bytes) : Oblivious (stream.write bytes) := by
  cases stream with
  | stderr => exact (writeOut .stderr bytes).discarded
  | stdout =>
      have lines : Oblivious (Stream.writeLines bytes) := by
        refine (writeComplete _).bind fun complete => ?_
        cases complete with
        | true => exact bufferLine _
        | false => exact .value
      exact lines.discarded

theorem flush (stream : Stream) : Oblivious stream.flush := by
  cases stream with
  | stdout => exact flushLines.discarded
  | stderr => exact .value

theorem writeOutput (output : Output) (bytes : Bytes) : Oblivious (output.write bytes) := by
  cases output with
  | standard stream => exact writeStream stream bytes
  | buffer number => exact changed fun _ _ => rfl

theorem isEnabled (level : Level) : Oblivious (Log.isEnabled level) :=
  look (fun _ _ => rfl) fun _ => .value

theorem debug (message : String) : Oblivious (Log.debug message) := by
  refine look (fun _ _ => rfl) fun host => ?_
  cases host.logger with
  | none => exact .value
  | some logger =>
      refine look (fun _ _ => rfl) fun now => ?_
      split
      · refine (changed fun _ _ => rfl).bind fun _ => ?_
        split
        · exact writeOutput _ _
        · exact .value
      · exact .value

end Oblivious

end CompileDriver
