import CompileDriver.Host.Basic

/-!
# Reader threads

How the reader threads of a host run.  A pipe is at its end when it is empty and
no descriptor refers to its writing end; as long as a writer is left, an attempt
to read from an empty pipe finds nothing yet.

`settle` lets every reader go on until it would have to wait, `takeTurn` plays
the next round of the schedule, and `join` waits for one reader to end.
-/

namespace CompileDriver

namespace Host

/-- One attempt to read at most `atMost` bytes from a descriptor: the outcome,
and the host with the bytes taken from the pipe. -/
def attempt (host : Host) (source atMost : Nat) : ReadOutcome × Host :=
  match host.table.file? source with
  | some (.pipeReader pipe) =>
      match host.queue pipe with
      | [] =>
          if host.table.refersTo (.pipeWriter pipe) then (.wouldBlock, host)
          else (.endOfPipe, host)
      | queued =>
          let count := min (max atMost 1) chunkSize
          (.chunk (queued.take count), host.setQueue pipe (queued.drop count))
  | some .emptyInput => (.endOfPipe, host)
  | _ => (.failed .badDescriptor, host)

/-- What comes of a move: the outcome of an attempt and the host after it. -/
def moveOutcome (host : Host) (source : Nat) : ReaderMove → ReadOutcome × Host
  | .read atMost => host.attempt source atMost
  | .wouldBlock => (.wouldBlock, host)
  | .interrupted => (.interrupted, host)
  | .fail error => (.failed error, host)

/-- One move of a reader.  A reader that has ended does not move. -/
def moveReader (host : Host) (reader : Reader) (move : ReaderMove) : Host × Reader :=
  if reader.status = .reading then
    let (outcome, host) := host.moveOutcome reader.source move
    (host, reader.receive outcome)
  else (host, reader)

/-- Put a reader back in its place. -/
def setReader (host : Host) (reader : Reader) : Host :=
  { host with
    readers := host.readers.map fun other =>
      if other.thread = reader.thread then reader else other }

/-- The reader with a thread number. -/
def reader? (host : Host) (thread : Nat) : Option Reader :=
  host.readers.find? fun reader => reader.thread = thread

/-- One move of the reader with a thread number. -/
def move (host : Host) (thread : Nat) (move : ReaderMove) : Host :=
  match host.reader? thread with
  | none => host
  | some reader =>
      let (host, reader) := host.moveReader reader move
      host.setReader reader

/-- All the moves of a round, in order. -/
def playRound (host : Host) (round : Round) : Host :=
  round.foldl (fun host (thread, move) => host.move thread move) host

theorem schedule_attempt (host : Host) (source atMost : Nat) :
    (host.attempt source atMost).2.schedule = host.schedule := by
  unfold attempt
  repeat' split
  all_goals rfl

theorem schedule_moveReader (host : Host) (reader : Reader) (move : ReaderMove) :
    (host.moveReader reader move).1.schedule = host.schedule := by
  unfold moveReader
  split
  · cases move
    · exact schedule_attempt host reader.source _
    all_goals rfl
  · rfl

theorem schedule_move (host : Host) (thread : Nat) (move : ReaderMove) :
    (host.move thread move).schedule = host.schedule := by
  unfold Host.move
  split
  · rfl
  · exact schedule_moveReader host _ move

/-- Playing a round leaves the rounds that are still to come alone. -/
theorem schedule_playRound (host : Host) (round : Round) :
    (host.playRound round).schedule = host.schedule := by
  unfold playRound
  induction round generalizing host with
  | nil => rfl
  | cons step rest ih =>
      rw [List.foldl_cons, ih]
      exact schedule_move host step.1 step.2

/-- Let one reader read `times` times. -/
def readOften (host : Host) (thread : Nat) : Nat → Host
  | 0 => host
  | times + 1 => readOften (host.move thread (.read chunkSize)) thread times

/-- How often a reader has to read to empty its pipe and see its end. -/
def readsNeeded (host : Host) (reader : Reader) : Nat :=
  match host.table.file? reader.source with
  | some (.pipeReader pipe) => (host.queue pipe).length / chunkSize + 2
  | _ => 1

/-- Let every reader go on until it would have to wait. -/
def settle (host : Host) : Host :=
  host.readers.foldl
    (fun state reader => state.readOften reader.thread (state.readsNeeded reader)) host

/-- The moves of the readers after a system call: the next round of the
schedule, or all that they can do when the schedule is used up. -/
def takeTurn (host : Host) : Host :=
  match host.schedule with
  | [] => host.settle
  | round :: rest => { host with schedule := rest }.playRound round

/-- Ask the reader with a thread number to stop, which only changes its
pauses. -/
def askToStop (host : Host) (thread : Nat) : Host :=
  { host with
    readers := host.readers.map fun reader =>
      if reader.thread = thread then { reader with stopping := true } else reader }

/-- Whether the reader with a thread number is still reading. -/
def isReading (host : Host) (thread : Nat) : Bool :=
  (host.reader? thread).any fun reader => reader.status = .reading

/-- Play rounds of the schedule until something holds; when they are used up,
let the readers do all that they can. -/
def playUntil (host : Host) (holds : Host → Bool) : List Round → Host
  | [] =>
      let host := { host with schedule := [] }
      if holds host then host else host.settle
  | round :: rest =>
      if holds host then { host with schedule := round :: rest }
      else (host.playRound round).playUntil holds rest

/-- Wait for the readers to bring something about. -/
def await (host : Host) (holds : Host → Bool) : Host :=
  host.playUntil holds host.schedule

/-- Wait for a reader to end and take it off the list of threads.  The process
is stuck when the reader never ends. -/
def join (host : Host) (thread : Nat) : Option Reader × Host :=
  let host := host.await fun host => !host.isReading thread
  (host.reader? thread,
    { host with
      stuck := host.stuck || host.isReading thread
      readers := host.readers.filter fun reader => reader.thread ≠ thread })

end Host

end CompileDriver
