import CompileDriver.Host.StandardStream
import CompileDriver.Proofs.Host.SystemCall

/-!
# Writing to streams and to the log

Whatever is written to a standard stream goes to the descriptor of that stream or into the line
buffer, so that a discipline that allows both governs all that can be written.

In particular the standard streams, the outputs and the log only speak: they write, and to no
foreign number as long as the numbers of the two streams are not foreign.
-/

namespace CompileDriver

namespace Discipline

variable {discipline : Discipline} {stream : Stream}

/-- A discipline that allows writing to the descriptor of a stream, and changing the line
buffer. -/
structure LetsWrite (discipline : Discipline) (stream : Stream) : Prop where
  write : ∀ bytes, discipline.Governs (SystemCall.write stream.number bytes) fun _ => True
  lineBuffer : ∀ (host : Host) lineBuffer, discipline.allows host { host with lineBuffer }

namespace LetsWrite

theorem writeOut (letsWrite : discipline.LetsWrite stream) (bytes : Bytes) :
    discipline.Governs (stream.writeOut bytes) fun _ => True := by
  refine (letsWrite.write bytes).bind fun outcome _ => ?_
  cases outcome <;> exact .value trivial

section

variable (letsWrite : discipline.LetsWrite .stdout)

include letsWrite

/-- To put something into the line buffer. -/
theorem setLineBuffer (change : Host → Bytes) :
    discipline.Governs (modify fun host => { host with lineBuffer := change host } : Action PUnit)
      fun _ => True :=
  .changed fun host => letsWrite.lineBuffer host (change host)

theorem flushLines : discipline.Governs Stream.flushLines fun _ => True := by
  refine .look fun host needed => ?_
  split
  · exact .value trivial
  · refine (letsWrite.writeOut host.lineBuffer).bind (fun written _ => ?_) host needed
    cases written with
    | true => exact (letsWrite.setLineBuffer fun _ => []).bind fun _ _ => .value trivial
    | false => exact .value trivial

theorem bufferLine (bytes : Bytes) :
    discipline.Governs (Stream.bufferLine bytes) fun _ => True := by
  have placed (flushed : Bool) : discipline.Governs
      (if !flushed then return false
        else if lineBufferCapacity ≤ bytes.length then Stream.writeOut .stdout bytes
        else do
          modify fun host => { host with lineBuffer := host.lineBuffer ++ bytes }
          return true) fun _ => True := by
    split
    · exact .value trivial
    · split
      · exact letsWrite.writeOut bytes
      · exact (letsWrite.setLineBuffer fun host => host.lineBuffer ++ bytes).bind fun _ _ =>
          .value trivial
  refine .look fun host needed => ?_
  dsimp only
  split
  · exact ⟨letsWrite.lineBuffer host _, trivial⟩
  · split
    · exact letsWrite.flushLines.bind (fun flushed _ => placed flushed) host needed
    · exact placed true host needed

theorem writeComplete (lines : Bytes) :
    discipline.Governs (Stream.writeComplete lines) fun _ => True := by
  refine .look fun host needed => ?_
  dsimp only
  split
  · split
    · exact letsWrite.flushLines host needed
    · exact .value trivial
  · split
    · exact letsWrite.writeOut lines host needed
    · refine (letsWrite.bufferLine lines).bind (fun buffered _ => ?_) host needed
      split
      · exact letsWrite.flushLines
      · exact .value trivial

theorem writeLines (bytes : Bytes) :
    discipline.Governs (Stream.writeLines bytes) fun _ => True := by
  refine (letsWrite.writeComplete _).bind fun complete _ => ?_
  split
  · exact letsWrite.bufferLine _
  · exact .value trivial

end

variable (letsWrite : discipline.LetsWrite stream)

include letsWrite

theorem writeStream (bytes : Bytes) : discipline.Governs (stream.write bytes) fun _ => True := by
  cases stream with
  | stdout => exact (letsWrite.writeLines bytes).discarded
  | stderr => exact (letsWrite.writeOut bytes).discarded

theorem flush : discipline.Governs stream.flush fun _ => True := by
  cases stream with
  | stdout => exact letsWrite.flushLines.discarded
  | stderr => exact .value trivial

end LetsWrite

end Discipline

/-! ## Speaking -/

namespace Speaks

variable {foreign : Nat → Prop} (own : ∀ stream : Stream, ¬ foreign stream.number)

include own

theorem letsWrite (stream : Stream) : (speaking foreign).LetsWrite stream where
  write := write (own stream)
  lineBuffer host lineBuffer := .single (.lineBuffer host lineBuffer)

theorem writeStream (stream : Stream) (bytes : Bytes) :
    Speaks foreign (stream.write bytes) fun _ => True :=
  (letsWrite own stream).writeStream bytes

theorem flush (stream : Stream) : Speaks foreign stream.flush fun _ => True :=
  (letsWrite own stream).flush

theorem writeOutput (output : Output) (bytes : Bytes) :
    Speaks foreign (output.write bytes) fun _ => True := by
  cases output with
  | standard stream => exact writeStream own stream bytes
  | buffer number => exact .changed fun host => .single (.buffers host _)

theorem log (logger : Logger) (level : Level) (message : String) :
    Speaks foreign (logger.log level message) fun _ => True := by
  refine .look fun host holds => ?_
  split
  · have noted : Speaks foreign (modify fun host => host.note (.logRecord level message))
        fun _ => True := .changed fun host => .single (.note host rfl)
    refine noted.bind (fun _ _ => ?_) host holds
    split
    · exact writeOutput own _ _
    · exact .value trivial
  · exact .value trivial

theorem debug (message : String) : Speaks foreign (Log.debug message) fun _ => True := by
  refine .look fun host holds => ?_
  split
  · exact log own _ _ message host holds
  · exact .value trivial

omit own in
theorem isEnabled (level : Level) : Speaks foreign (Log.isEnabled level) fun _ => True :=
  .look fun _ _ => .value trivial

end Speaks

namespace Stream

theorem writeOut_host (stream : Stream) (bytes : Bytes) (host : Host) :
    (stream.writeOut bytes host).2 = (SystemCall.write stream.number bytes host).2 := by
  rw [writeOut, Action.bind_apply]
  cases (SystemCall.write stream.number bytes host).1 <;> rfl

/-- Flushing standard output empties the line buffer if what it holds can be written out. -/
theorem flush_written {host after : Host} (held : host.lineBuffer ≠ [])
    (written : writeOut .stdout host.lineBuffer host = (true, after)) :
    Stream.stdout.flush host = (⟨⟩, { after with lineBuffer := [] }) := by
  rw [flush, Action.discard_apply, flushLines, Action.bind_apply, Action.get_apply]
  dsimp only
  rw [if_neg held, Action.bind_apply, written]
  rfl

theorem write_utterances (stream : Stream) (bytes : Bytes) (host : Host) :
    Host.Utterances (fun _ => False) host (stream.write bytes host).2 :=
  (Speaks.writeStream (fun _ => not_false) stream bytes host trivial).1

theorem flush_utterances (stream : Stream) (host : Host) :
    Host.Utterances (fun _ => False) host (stream.flush host).2 :=
  (Speaks.flush (fun _ => not_false) stream host trivial).1

end Stream

theorem Log.debug_utterances (message : String) (host : Host) :
    Host.Utterances (fun _ => False) host (Log.debug message host).2 :=
  (Speaks.debug (fun _ => not_false) message host trivial).1

end CompileDriver
