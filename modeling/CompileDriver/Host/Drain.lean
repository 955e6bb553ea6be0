import CompileDriver.Bytes
import CompileDriver.OsError

/-!
# Draining a pipe

A reader thread reads from a pipe until it sees the end or an error, and keeps
everything that it reads.  An attempt that finds nothing to read yet is repeated
after a pause, which is longer once the reader has been asked to stop; an
interrupted attempt is repeated at once.
-/

namespace CompileDriver

/-- How much a reader takes from a pipe at once. -/
def chunkSize : Nat := 4096

/-- The outcome of one attempt to read. -/
inductive ReadOutcome
  /-- Some bytes. -/
  | chunk (bytes : Bytes)
  /-- Nothing yet. -/
  | wouldBlock
  /-- A signal came first. -/
  | interrupted
  /-- The end of the pipe. -/
  | endOfPipe
  /-- Reading failed. -/
  | failed (error : OsError)
  deriving Repr, DecidableEq

/-- How far a reader thread has come. -/
inductive ReaderStatus
  /-- It goes on reading. -/
  | reading
  /-- It has seen the end of its pipe. -/
  | finished
  /-- It gave up because reading failed. -/
  | failed (error : OsError)
  deriving Repr, DecidableEq

/-- The pause of a reader that finds nothing to read, in milliseconds: a short
one, and a longer one when it has been asked to stop. -/
def pauseMillis (stopping : Bool) : Nat :=
  if stopping then 5 else 1

/-- A thread that reads from a pipe until its end. -/
structure Reader where
  /-- The number of the thread. -/
  thread : Nat
  /-- The descriptor number that it reads from. -/
  source : Nat
  /-- What it has read. -/
  collected : Bytes := []
  status : ReaderStatus := .reading
  /-- Whether it has been asked to stop. -/
  stopping : Bool := false
  /-- How long it has paused, in milliseconds. -/
  paused : Nat := 0
  deriving Repr, DecidableEq

namespace Reader

/-- Go on with the outcome of an attempt.  A reader that has ended makes no
further attempts. -/
def receive (reader : Reader) (outcome : ReadOutcome) : Reader :=
  match reader.status, outcome with
  | .reading, .chunk bytes => { reader with collected := reader.collected ++ bytes }
  | .reading, .wouldBlock => { reader with paused := reader.paused + pauseMillis reader.stopping }
  | .reading, .interrupted => reader
  | .reading, .endOfPipe => { reader with status := .finished }
  | .reading, .failed error => { reader with status := .failed error }
  | _, _ => reader

/-- Go on with the outcomes of several attempts, each made with the stop request
as it was then. -/
def drain (reader : Reader) (attempts : List (Bool × ReadOutcome)) : Reader :=
  attempts.foldl
    (fun reader (stopping, outcome) => { reader with stopping }.receive outcome) reader

end Reader

end CompileDriver
