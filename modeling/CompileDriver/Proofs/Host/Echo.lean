import CompileDriver.Proofs.Action
import CompileDriver.Proofs.Host.Deeds

/-!
# Writing side by side

Two processes with the same in their line buffers, whose streams take what is written to them,
echo each other: when both write the same, the same is delivered and the same is held back.
-/

namespace CompileDriver

open Host

/-- The streams of both hosts take what is written, both processes hold back the same, and the
same has been delivered since the two hosts `base` and `baseTwin`. -/
structure Host.Echoes (base baseTwin one two : Host) : Prop where
  takes : ∀ stream : Stream, one.opened.Takes stream.number
  takesTwin : ∀ stream : Stream, two.opened.Takes stream.number
  lineBuffer : one.lineBuffer = two.lineBuffer
  counted : ∃ taken, Counted base taken one ∧ Counted baseTwin taken two

theorem Host.Echoes.initially {one two : Host}
    (takes : ∀ stream : Stream, one.opened.Takes stream.number)
    (takesTwin : ∀ stream : Stream, two.opened.Takes stream.number)
    (lineBuffer : one.lineBuffer = two.lineBuffer) : Echoes one two one two :=
  ⟨takes, takesTwin, lineBuffer, fun _ => [], .initially one, .initially two⟩

theorem Host.Echoes.delivered {base baseTwin one two : Host} (echoes : Echoes base baseTwin one two)
    (stream : Stream) :
    one.deliveredSince base stream.number = two.deliveredSince baseTwin stream.number := by
  obtain ⟨taken, counted, countedTwin⟩ := echoes.counted
  rw [counted.delivered, countedTwin.delivered]

theorem Host.Echoes.setBuffer {base baseTwin one two : Host}
    (echoes : Echoes base baseTwin one two) (lineBuffer : Bytes) :
    Echoes base baseTwin { one with lineBuffer } { two with lineBuffer } := by
  obtain ⟨taken, counted, countedTwin⟩ := echoes.counted
  exact ⟨echoes.takes, echoes.takesTwin, rfl, taken, ⟨counted.grown, counted.delivered⟩,
    ⟨countedTwin.grown, countedTwin.delivered⟩⟩

namespace SystemCall

/-- A stream that takes what is written takes it, and nothing else changes for the
streams. -/
theorem write_of_takes {host : Host} {stream : Stream}
    (takes : host.opened.Takes stream.number) (bytes : Bytes) :
    (write stream.number bytes host).1 = .ok () ∧
      (write stream.number bytes host).2.opened = host.opened ∧
      (write stream.number bytes host).2.lineBuffer = host.lineBuffer := by
  obtain ⟨file, found⟩ := Option.ne_none_iff_exists'.mp takes.isOpen
  have written := write_open found bytes
  rw [deliver_of_takes found takes bytes] at written
  rw [written]
  refine ⟨rfl, ?_, lineBuffer_deliver host file bytes⟩
  have table := table_deliver host file bytes
  rw [opened, opened, ← table]
  rfl

end SystemCall

namespace Abreast

variable {base baseTwin : Host}

theorem write_echo (stream : Stream) (bytes : Bytes) :
    Abreast (Echoes base baseTwin) (SystemCall.write stream.number bytes)
      (SystemCall.write stream.number bytes) fun outcome twin =>
        outcome = .ok () ∧ twin = .ok () := by
  intro one two echoes
  obtain ⟨taken, counted, countedTwin⟩ := echoes.counted
  obtain ⟨succeeded, files, kept⟩ := SystemCall.write_of_takes (echoes.takes stream) bytes
  obtain ⟨succeededTwin, filesTwin, keptTwin⟩ :=
    SystemCall.write_of_takes (echoes.takesTwin stream) bytes
  refine ⟨⟨?_, ?_, ?_, ?_⟩, succeeded, succeededTwin⟩
  · exact fun other => files ▸ echoes.takes other
  · exact fun other => filesTwin ▸ echoes.takesTwin other
  · exact kept.trans (echoes.lineBuffer.trans keptTwin.symm)
  · exact ⟨_, counted.write succeeded, countedTwin.write succeededTwin⟩

theorem writeOut_echo (stream : Stream) (bytes : Bytes) :
    Abreast (Echoes base baseTwin) (stream.writeOut bytes) (stream.writeOut bytes) Eq := by
  apply (write_echo stream bytes).bind
  rintro _ _ ⟨rfl, rfl⟩
  exact .value rfl

theorem changeBuffer_echo (change : Bytes → Bytes) :
    Abreast (Echoes base baseTwin)
      (modify fun host => { host with lineBuffer := change host.lineBuffer } : Action PUnit)
      (modify fun host => { host with lineBuffer := change host.lineBuffer }) Eq := by
  intro one two echoes
  refine ⟨?_, rfl⟩
  simp only [Action.modify_apply, echoes.lineBuffer]
  exact echoes.setBuffer _

theorem flushLines_echo :
    Abreast (Echoes base baseTwin) Stream.flushLines Stream.flushLines Eq := by
  apply look
  intro one two echoes
  rw [echoes.lineBuffer]
  split
  · exact ⟨echoes, rfl⟩
  · refine (writeOut_echo .stdout two.lineBuffer).bind ?_ _ _ echoes
    rintro written _ rfl
    cases written with
    | true => exact (changeBuffer_echo fun _ => []).bind fun _ _ _ => .value rfl
    | false => exact .value rfl

theorem bufferLine_echo (bytes : Bytes) :
    Abreast (Echoes base baseTwin) (Stream.bufferLine bytes) (Stream.bufferLine bytes) Eq := by
  have appended : Abreast (Echoes base baseTwin)
      (do modify fun host => { host with lineBuffer := host.lineBuffer ++ bytes }
          return true)
      (do modify fun host => { host with lineBuffer := host.lineBuffer ++ bytes }
          return true) Eq :=
    (changeBuffer_echo (· ++ bytes)).bind fun _ _ _ => .value rfl
  have bypassed (flushed : Bool) : Abreast (Echoes base baseTwin)
      (if !flushed then pure false
        else if lineBufferCapacity ≤ bytes.length then Stream.writeOut .stdout bytes
        else do
          modify fun host => { host with lineBuffer := host.lineBuffer ++ bytes }
          return true)
      (if !flushed then pure false
        else if lineBufferCapacity ≤ bytes.length then Stream.writeOut .stdout bytes
        else do
          modify fun host => { host with lineBuffer := host.lineBuffer ++ bytes }
          return true) Eq := by
    split
    · exact .value rfl
    · split
      · exact writeOut_echo .stdout bytes
      · exact appended
  apply look
  intro one two echoes
  rw [echoes.lineBuffer]
  dsimp only
  split
  · exact ⟨echoes.setBuffer _, rfl⟩
  · split
    · refine flushLines_echo.bind ?_ _ _ echoes
      rintro flushed _ rfl
      exact bypassed flushed
    · exact bypassed true _ _ echoes

theorem writeComplete_echo (lines : Bytes) :
    Abreast (Echoes base baseTwin) (Stream.writeComplete lines) (Stream.writeComplete lines)
      Eq := by
  apply look
  intro one two echoes
  rw [echoes.lineBuffer]
  dsimp only
  split
  · split
    · exact flushLines_echo _ _ echoes
    · exact ⟨echoes, rfl⟩
  · split
    · exact writeOut_echo .stdout lines _ _ echoes
    · refine (bufferLine_echo lines).bind ?_ _ _ echoes
      rintro buffered _ rfl
      cases buffered with
      | true => exact flushLines_echo
      | false => exact .value rfl

/-- Both processes write the same to a stream. -/
theorem writeStream_echo (stream : Stream) (bytes : Bytes) :
    Abreast (Echoes base baseTwin) (stream.write bytes) (stream.write bytes)
      fun _ _ => True := by
  cases stream with
  | stderr => exact (writeOut_echo .stderr bytes).discarded
  | stdout =>
      have lines : Abreast (Echoes base baseTwin) (Stream.writeLines bytes)
          (Stream.writeLines bytes) Eq := by
        apply (writeComplete_echo _).bind
        rintro complete _ rfl
        cases complete with
        | true => exact bufferLine_echo _
        | false => exact .value rfl
      exact lines.discarded

end Abreast

end CompileDriver
