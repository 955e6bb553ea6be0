import CompileDriver.Host.Reader

/-!
# System calls

The operations on descriptors, files and threads.  Each of them either succeeds
or leaves the host as it is; after each of them the moment is noted and the
reader threads get their turn.

New descriptors take the lowest free number and are not inherited by programs,
redirecting makes the target number inheritable.  Calls that acquire something
can be refused at any time; giving something back cannot.
-/

namespace CompileDriver

/-- How many bytes a pipe can hold. -/
def pipeCapacity : Nat := 65536

namespace Host

/-- End a system call. -/
def endCall (host : Host) : Host :=
  (host.note .systemCall).takeTurn

/-- The number of the next descriptor: the lowest free one, which has to be
below the limit. -/
def nextNumber (host : Host) : Except OsError Nat :=
  let number := host.table.lowestFree
  if host.numberLimit.all (number < ·) then .ok number else .error .tooManyOpen

/-- Make a new descriptor. -/
def allocate (host : Host) (descriptor : Descriptor) : Except OsError (Nat × Host) :=
  match host.nextNumber with
  | .error error => .error error
  | .ok number => .ok (number, { host with table := host.table.put number descriptor })

/-- Make a pipe: the numbers of its reading and of its writing end. -/
def makePipe (host : Host) : Except OsError ((Nat × Nat) × Host) := do
  let name := host.pipes.length
  let (reader, host) ← host.allocate ⟨.pipeReader name, false⟩
  let (writer, host) ← host.allocate ⟨.pipeWriter name, false⟩
  return ((reader, writer), { host with pipes := host.pipes ++ [[]] })

/-- Make a second descriptor for the open file of a number. -/
def duplicate (host : Host) (number : Nat) : Except OsError (Nat × Host) :=
  match host.table.get? number with
  | none => .error .badDescriptor
  | some descriptor => host.allocate { descriptor with inherited := false }

/-- Make the number `target` refer to the open file of the number `source`.
Nothing changes when both are the same number. -/
def redirect (host : Host) (source target : Nat) : Except OsError (Unit × Host) :=
  match host.table.get? source with
  | none => .error .badDescriptor
  | some descriptor =>
      if source = target then .ok ((), host)
      else
        .ok ((), { host with
          table := host.table.put target { descriptor with inherited := true } })

/-- Open a new descriptor for a file. -/
def openAs (host : Host) (file : Nat → OpenFile) : Except OsError (Nat × Host) := do
  let (number, host) ← host.allocate ⟨file host.openings, false⟩
  return (number, { host with openings := host.openings + 1 })

/-- Open the file at `path` for appending, creating it if need be.  A lack of
numbers is noticed before the path is followed. -/
def openAppending (host : Host) (path : Path) : Except OsError (Nat × Host) := do
  FileTree.checkPath path
  discard host.nextNumber
  let (files, place) ← host.files.openForWriting host.directory path
  let (number, host) ← host.openAs (.entry · place)
  return (number, { host with files })

/-- Switch a descriptor to polling, which only an open one allows. -/
def setPolling (host : Host) (number : Nat) : Except OsError (Unit × Host) :=
  if (host.table.get? number).isSome then .ok ((), host) else .error .badDescriptor

/-- Start a thread that reads from a descriptor: its number. -/
def startReader (host : Host) (source : Nat) : Except OsError (Nat × Host) :=
  if host.threadSupply = some 0 then .error .unavailable
  else
    let thread := host.threadsStarted
    .ok (thread, { host with
      threadSupply := host.threadSupply.map (· - 1)
      threadsStarted := thread + 1
      readers := host.readers ++ [{ thread, source }] })

/-- How many more bytes fit into a pipe. -/
def room (host : Host) (pipe : Nat) : Nat :=
  pipeCapacity - (host.queue pipe).length

/-- Queue what fits of `bytes` in a pipe, then let the readers run. -/
def push (host : Host) (pipe : Nat) (bytes : Bytes) : Host :=
  (host.setQueue pipe (host.queue pipe ++ bytes.take (host.room pipe))).takeTurn

/-- Move what fits of `bytes` into a pipe, let the readers run, and go on with
the rest.  A writer that finds the pipe full waits for the readers; it is stuck
when none of them takes anything any more. -/
def feed (pipe : Nat) (host : Host) : Bytes → Host
  | [] => host
  | first :: rest =>
      let ready := host.await fun host => 0 < host.room pipe
      match ready.room pipe with
      | 0 => { ready with stuck := true }
      | more + 1 => feed pipe (ready.push pipe (first :: rest)) (rest.drop more)
  termination_by bytes => bytes.length
  decreasing_by
    simp only [List.length_drop, List.length_cons]
    omega

/-- Write to an open file.  Writing to a pipe that nobody can read fails. -/
def deliver (host : Host) (file : OpenFile) (bytes : Bytes) : Except OsError Unit × Host :=
  match file with
  | .initial stream =>
      (.ok (), { host with received := host.received.modify stream (· ++ bytes) }.takeTurn)
  | .emptyInput | .pipeReader _ => (.error .badDescriptor, host.takeTurn)
  | .discard _ => (.ok (), host.takeTurn)
  | .pipeWriter pipe =>
      if host.table.refersTo (.pipeReader pipe) then (.ok (), feed pipe host bytes)
      else (.error .brokenPipe, host.takeTurn)
  | .entry _ place =>
      (.ok (), { host with files := host.files.append place bytes }.takeTurn)

end Host

namespace SystemCall

variable {α : Type}

/-- Perform a system call. -/
def perform (call : Host → Except OsError (α × Host)) : Action (Except OsError α) := do
  let host ← get
  match call host with
  | .error error =>
      set host.endCall
      return .error error
  | .ok (value, host) =>
      set host.endCall
      return .ok value

/-- Perform a system call that acquires something, unless it is refused. -/
def acquire (call : Host → Except OsError (α × Host)) : Action (Except OsError α) := do
  let host ← get
  match host.refusals with
  | [] => perform call
  | none :: rest =>
      set { host with refusals := rest }
      perform call
  | some error :: rest =>
      set { host with refusals := rest }.endCall
      return .error error

/-- Make a pipe: the numbers of its reading and of its writing end. -/
def pipe : Action (Except OsError (Nat × Nat)) :=
  acquire Host.makePipe

/-- Make a second descriptor for the open file of a number. -/
def duplicate (number : Nat) : Action (Except OsError Nat) :=
  acquire (·.duplicate number)

/-- Make the number `target` refer to the open file of the number `source`. -/
def redirect (source target : Nat) : Action (Except OsError Unit) :=
  acquire (·.redirect source target)

/-- Make the number `target` refer again to the open file that was saved under
the number `saved`. -/
def giveBack (saved target : Nat) : Action (Except OsError Unit) :=
  perform (·.redirect saved target)

/-- Free a number. -/
def close (number : Nat) : Action Unit :=
  modify fun host => { host with table := host.table.close number }.endCall

/-- Open a new descriptor for a file. -/
def openAs (file : Nat → OpenFile) : Action (Except OsError Nat) :=
  acquire (·.openAs file)

/-- Open the discard device for writing. -/
def openDiscard : Action (Except OsError Nat) :=
  openAs .discard

/-- Open the file at `path` for appending, creating it if need be. -/
def openAppending (path : Path) : Action (Except OsError Nat) :=
  acquire (·.openAppending path)

/-- Switch a descriptor to polling. -/
def setPolling (number : Nat) : Action (Except OsError Unit) :=
  acquire (·.setPolling number)

/-- Start a thread that reads from a descriptor. -/
def startReader (source : Nat) : Action (Except OsError Nat) :=
  acquire (·.startReader source)

/-- Wait for a reader thread to end. -/
def joinReader (thread : Nat) : Action (Option Reader) := do
  let (reader, host) := (← get).join thread
  set host
  return reader

/-- Write to the open file of a number. -/
def write (number : Nat) (bytes : Bytes) : Action (Except OsError Unit) := do
  let host ← get
  match host.table.file? number with
  | none =>
      set host.takeTurn
      return .error .badDescriptor
  | some file =>
      let (outcome, host) := host.deliver file bytes
      match outcome with
      | .ok () =>
          set (host.note (.delivered number bytes))
          return .ok ()
      | .error error =>
          set host
          return .error error

/-- Allow exactly `count` further descriptors, or any number of them. -/
def limitDescriptors (count : Option Nat) : Action Unit :=
  modify fun host => { host with numberLimit := count.map host.table.numberAbove }

/-- The time since the last look at the clock. -/
def elapsed : Action Duration := do
  let host ← get
  match host.measurements with
  | [] => return .zero
  | time :: rest =>
      set { host with measurements := rest }
      return time

end SystemCall

end CompileDriver
