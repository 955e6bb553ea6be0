import CompileDriver.Proofs.Host.Ledger
import CompileDriver.Proofs.Host.Notes

/-!
# Reaching the original targets

`passedSince` tells which bytes have reached a file through a number while the number
referred to it.  As long as a stream refers to a file that takes what is written, hosts are
a sink for it in this sense: what has been written to the stream has reached its file,
apart from what the process holds back.

What happens between the writes, such as acquiring descriptors and giving them back,
is mute: it delivers nothing and leaves the line buffer alone.
-/

namespace CompileDriver

/-- What is written to the number is taken: the number is open for writing, and not
the end of a pipe that cannot be read from any more. -/
def OpenFiles.Takes (files : OpenFiles) (number : Nat) : Prop :=
  match files number with
  | some (.initial _) | some (.discard _) | some (.entry _ _) => True
  | some (.pipeWriter pipe) => ∃ reader, files reader = some (.pipeReader pipe)
  | _ => False

/-- The streams that take what is written. -/
def OpenFiles.Flows (files : OpenFiles) (stream : Stream) : Prop :=
  files.Takes stream.number

theorem OpenFiles.Takes.isOpen {files : OpenFiles} {number : Nat} (takes : files.Takes number) :
    files number ≠ none := by
  intro closed
  simp [Takes, closed] at takes

/-- When both streams are open there is a file of each. -/
theorem OpenFiles.exists_files {opened : OpenFiles}
    (isOpen : ∀ stream : Stream, opened stream.number ≠ none) :
    ∃ files : PerStream OpenFile, ∀ stream : Stream,
      opened stream.number = some (files.get stream) := by
  obtain ⟨stdout, stdoutFound⟩ := Option.ne_none_iff_exists'.mp (isOpen .stdout)
  obtain ⟨stderr, stderrFound⟩ := Option.ne_none_iff_exists'.mp (isOpen .stderr)
  refine ⟨{ stdout, stderr }, ?_⟩
  rintro (_ | _)
  · exact stdoutFound
  · exact stderrFound

/-- Numbers that stay what they were keep taking what is written. -/
theorem OpenFiles.Takes.kept {before after : OpenFiles} {number : Nat}
    (takes : before.Takes number)
    (same : ∀ other, before other ≠ none → after other = before other) : after.Takes number := by
  cases found : before number with
  | none => simp [Takes, found] at takes
  | some file =>
      have stillFound : after number = some file := (same number (by simp [found])).trans found
      cases file with
      | pipeWriter pipe =>
          simp only [Takes, found] at takes
          rcases takes with ⟨reader, reads⟩
          simp only [Takes, stillFound]
          exact ⟨reader, (same reader (by simp [reads])).trans reads⟩
      | _ => simp_all [Takes]

/-- The bytes that the moment delivers to a number while it refers to a file. -/
def Moment.passedTo (number : Nat) (file : OpenFile) (moment : Moment) : Bytes :=
  if moment.table.file? number = some file then moment.deliveredTo number else []

theorem Moment.passedTo_of_found {table : DescriptorTable} {number : Nat} {file : OpenFile}
    (found : table.file? number = some file) (event : Event) :
    Moment.passedTo number file { event, table } = Moment.deliveredTo number { event, table } :=
  if_pos found

theorem Moment.passedTo_of_elsewhere {table : DescriptorTable} {number : Nat} {file : OpenFile}
    (elsewhere : table.file? number ≠ some file) (event : Event) :
    Moment.passedTo number file { event, table } = [] :=
  if_neg elsewhere

namespace Host

/-- The bytes that have reached a file through a number since an earlier state. -/
def passedSince (host earlier : Host) (number : Nat) (file : OpenFile) : Bytes :=
  (host.historySince earlier).flatMap (Moment.passedTo number file)

theorem passedSince_self (host : Host) (number : Nat) (file : OpenFile) :
    host.passedSince host number file = [] := by
  simp [passedSince, historySince_self]

theorem passedSince_trans {first second third : Host} (start : first.journal <:+ second.journal)
    (rest : second.journal <:+ third.journal) (number : Nat) (file : OpenFile) :
    third.passedSince first number file =
      second.passedSince first number file ++ third.passedSince second number file := by
  simp only [passedSince, historySince_trans start rest, List.flatMap_append]

/-- Only what is delivered passes. -/
theorem passedSince_of_not_delivered {before after : Host} {number : Nat}
    (nothing : after.deliveredSince before number = []) (file : OpenFile) :
    after.passedSince before number file = [] := by
  rw [passedSince, List.flatMap_eq_nil_iff]
  intro moment member
  rw [deliveredSince, List.flatMap_eq_nil_iff] at nothing
  rw [Moment.passedTo, nothing moment member, ite_self]

theorem passedSince_note {base host : Host} (grown : base.journal <:+ host.journal)
    (event : Event) (number : Nat) (file : OpenFile) :
    (host.note event).passedSince base number file =
      host.passedSince base number file ++
        Moment.passedTo number file { event, table := host.table } := by
  have noted : (host.note event).journal = [{ event, table := host.table }] ++ host.journal := rfl
  rw [passedSince_trans grown (List.suffix_cons _ _)]
  simp [passedSince, historySince_of_journal noted]

theorem passedSince_of_journal {base before after : Host} (same : after.journal = before.journal) :
    after.passedSince base = before.passedSince base := by
  funext number file
  simp only [passedSince, historySince, history, same]

/-! ## Delivering -/

/-- A file that takes what is written takes it. -/
theorem deliver_of_takes {host : Host} {number : Nat} {file : OpenFile}
    (found : host.opened number = some file) (takes : host.opened.Takes number) (bytes : Bytes) :
    (host.deliver file bytes).1 = .ok () := by
  rw [OpenFiles.Takes, found] at takes
  cases file with
  | initial stream => rfl
  | discard opening => rfl
  | entry opening place => rfl
  | emptyInput => exact takes.elim
  | pipeReader pipe => exact takes.elim
  | pipeWriter pipe =>
      have readable : host.table.refersTo (.pipeReader pipe) = true :=
        (host.table.refersTo_iff _).mpr takes
      rw [deliver, if_pos readable]

/-- What is written to a stream passes to its file, if that takes it. -/
theorem passedSince_write {base host : Host} {stream : Stream} {file : OpenFile}
    (found : host.opened stream.number = some file) (takes : host.opened.Takes stream.number)
    (grown : base.journal <:+ host.journal) (bytes : Bytes) :
    (SystemCall.write stream.number bytes host).2.passedSince base stream.number file =
      host.passedSince base stream.number file ++ bytes := by
  have journal := journal_deliver host file bytes
  have written := SystemCall.write_open found bytes
  rw [deliver_of_takes found takes bytes] at written
  rw [written, passedSince_note (journal ▸ grown), passedSince_of_journal journal,
    table_deliver, Moment.passedTo_of_found found, Moment.deliveredTo_stream, Stream.only_self]

/-- Nothing passes through one stream when another one is written to. -/
theorem passedSince_write_other {base host : Host} {stream other : Stream}
    (different : other ≠ stream) (grown : base.journal <:+ host.journal) (bytes : Bytes)
    (file : OpenFile) :
    (SystemCall.write stream.number bytes host).2.passedSince base other.number file =
      host.passedSince base other.number file := by
  cases found : host.opened stream.number with
  | none =>
      rw [SystemCall.write_closed found,
        passedSince_of_journal (readersRan_takeTurn host).journal]
  | some target =>
      have journal := journal_deliver host target bytes
      have elsewhere : Moment.deliveredTo other.number
          { event := .delivered stream.number bytes
            table := (host.deliver target bytes).2.table } =
            [] := by
        rw [Moment.deliveredTo_stream, Stream.only_of_ne different]
      rw [SystemCall.write_open found]
      split
      · rw [passedSince_note (journal ▸ grown), passedSince_of_journal journal, Moment.passedTo,
          elsewhere, ite_self, List.append_nil]
      · rw [passedSince_of_journal journal]

/-- The streams refer to `files`; those among them that flow take what is written, and have
taken `taken` since `base`. -/
structure Passing (flows : Stream → Prop) (base : Host) (files : PerStream OpenFile)
    (taken : Stream → Bytes) (host : Host) : Prop where
  found : ∀ stream : Stream, host.opened stream.number = some (files.get stream)
  takes : ∀ stream : Stream, flows stream → host.opened.Takes stream.number
  grown : base.journal <:+ host.journal
  passed : ∀ stream : Stream, flows stream →
    host.passedSince base stream.number (files.get stream) = taken stream

theorem passing_sink (flows : Stream → Prop) (base : Host) (files : PerStream OpenFile) :
    Sink flows (Passing flows base files) where
  writes := by
    intro taken host stream bytes flowing passing
    have found := passing.found stream
    have takes := passing.takes stream flowing
    have utterances := SystemCall.write_utterances stream.number bytes host
    have succeeded : (SystemCall.write stream.number bytes host).1 = .ok () := by
      rw [SystemCall.write_open found, deliver_of_takes found takes bytes]
    refine ⟨succeeded, ⟨?_, ?_, passing.grown.trans utterances.notes.grown, fun other flows => ?_⟩⟩
    · exact utterances.still.1 ▸ passing.found
    · exact utterances.still.1 ▸ passing.takes
    · by_cases same : other = stream
      · subst same
        rw [passedSince_write found takes passing.grown, passing.passed other flows,
          Stream.only_self]
      · rw [passedSince_write_other same passing.grown, passing.passed other flows,
          Stream.only_of_ne same, List.append_nil]
  strays := by
    intro taken host stream bytes stray passing
    have utterances := SystemCall.write_utterances stream.number bytes host
    refine ⟨?_, ?_, passing.grown.trans utterances.notes.grown, fun other flowing => ?_⟩
    · exact utterances.still.1 ▸ passing.found
    · exact utterances.still.1 ▸ passing.takes
    · have different : other ≠ stream := fun same => stray (same ▸ flowing)
      rw [passedSince_write_other different passing.grown, passing.passed other flowing]
  buffers lineBuffer passing := ⟨passing.found, passing.takes, passing.grown, passing.passed⟩

end Host

end CompileDriver
