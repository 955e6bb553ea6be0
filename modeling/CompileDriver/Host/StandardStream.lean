import CompileDriver.Host.SystemCall

/-!
# Writing to the standard streams

Standard output is buffered by lines: a line is written out when it is
complete, an unfinished one stays in the buffer until the buffer is flushed or
full.  Standard error is not buffered.  Whatever is written to a stream without
an open descriptor is lost without notice; writing out fails only when a pipe
has no reader, and what is still in the buffer then stays there.
-/

namespace CompileDriver

/-- How many bytes of an unfinished line the buffer of standard output
holds. -/
def lineBufferCapacity : Nat := 1024

namespace Stream

/-- Write to the descriptor of a stream at once; whether that worked.  A closed
stream swallows everything. -/
def writeOut (stream : Stream) (bytes : Bytes) : Action Bool := do
  match ← SystemCall.write stream.number bytes with
  | .ok () => return true
  | .error error => return error = .badDescriptor

/-- Write out the line buffer of standard output; whether that worked. -/
def flushLines : Action Bool := do
  let host ← get
  if host.lineBuffer = [] then return true
  else
    let written ← writeOut .stdout host.lineBuffer
    if written then modify fun host => { host with lineBuffer := [] }
    return written

/-- Add to the line buffer, which is written out first when there is not enough
room; what does not fit into the whole buffer bypasses it. -/
def bufferLine (bytes : Bytes) : Action Bool := do
  let host ← get
  let held := host.lineBuffer.length + bytes.length
  if held < lineBufferCapacity then
    set { host with lineBuffer := host.lineBuffer ++ bytes }
    return true
  else
    let flushed ← if lineBufferCapacity < held then flushLines else pure true
    if !flushed then return false
    else if lineBufferCapacity ≤ bytes.length then writeOut .stdout bytes
    else
      modify fun host => { host with lineBuffer := host.lineBuffer ++ bytes }
      return true

/-- Write out complete lines behind what is in the line buffer; whether that
worked.  Without any line, only a complete line that was left in the buffer is
written out. -/
def writeComplete (lines : Bytes) : Action Bool := do
  let held := (← get).lineBuffer
  if lines = [] then
    if held.getLast? = some Bytes.newline then flushLines else return true
  else if held = [] then writeOut .stdout lines
  else
    let buffered ← bufferLine lines
    if buffered then flushLines else return false

/-- Write to standard output through its line buffer; whether that worked. -/
def writeLines (bytes : Bytes) : Action Bool := do
  let (lines, unfinished) := Bytes.splitLastLine bytes
  let complete ← writeComplete lines
  if complete then bufferLine unfinished else return false

/-- Write to a standard stream.  A failure is not reported. -/
def write (stream : Stream) (bytes : Bytes) : Action Unit := do
  match stream with
  | .stdout => discard (writeLines bytes)
  | .stderr => discard (writeOut .stderr bytes)

/-- Write out what is still buffered of a stream. -/
def flush (stream : Stream) : Action Unit := do
  match stream with
  | .stdout => discard flushLines
  | .stderr => return ()

end Stream

namespace Output

/-- Make a new buffer in memory. -/
def newBuffer : Action Output := do
  let host ← get
  set { host with buffers := host.buffers ++ [[]] }
  return .buffer host.buffers.length

/-- Write to an output.  A failure is not reported. -/
def write (output : Output) (bytes : Bytes) : Action Unit := do
  match output with
  | .standard stream => stream.write bytes
  | .buffer number =>
      modify fun host =>
        { host with buffers := host.buffers.modify number (· ++ bytes) }

/-- Write a text to an output. -/
def print (output : Output) (text : String) : Action Unit :=
  output.write (Bytes.ofText text)

/-- Write out what an output still holds back. -/
def flush : Output → Action Unit
  | .standard stream => stream.flush
  | .buffer _ => return ()

/-- What was written to a buffer, lossily decoded.  The standard streams keep
no contents. -/
def contents (output : Output) : Action (Option String) := do
  match output with
  | .standard _ => return none
  | .buffer number => return some (Utf8.lossy ((← get).buffers.getD number []))

end Output

namespace Logger

/-- Write a record to its route, when its level is enabled. -/
def log (logger : Logger) (level : Level) (message : String) : Action Unit := do
  if (← get).threshold.admits level then
    modify fun host => host.note (.logRecord level message)
    match logger.route level with
    | some output => output.print (level.line message)
    | none => return ()

/-- Write out what is still held back, which is nothing: records are written at once. -/
def flush (_ : Logger) : Action Unit :=
  return ()

/-- What is said when the process has a logger already. -/
def alreadyInstalled : String :=
  "attempted to set a logger after the logging system was already initialized"

/-- Attach the routes that are not attached yet, make the logger that of the
process and set the threshold.  A process that has a logger already keeps it
together with its threshold.  The result tells whether the logger was installed,
and what became of it. -/
def install (logger : Logger) (output error : Output) (threshold : Threshold) :
    Action (Bool × Logger) := do
  let attached := (logger.attachOutput output).attachError error
  let host ← get
  if host.logger.isSome then return (false, attached)
  else
    set { host with logger := some attached, threshold }
    return (true, attached)

end Logger

namespace Log

/-- Whether records of a level are enabled.  Without a logger none are. -/
def isEnabled (level : Level) : Action Bool := do
  let host ← get
  return host.logger.isSome && host.threshold.admits level

/-- Set the least severe level that is logged. -/
def setThreshold (threshold : Threshold) : Action Unit :=
  modify fun host => { host with threshold }

/-- Write a record with the logger of the process. -/
def debug (message : String) : Action Unit := do
  match (← get).logger with
  | some logger => logger.log .debug message
  | none => return ()

end Log

end CompileDriver
