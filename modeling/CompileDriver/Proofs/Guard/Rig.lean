import CompileDriver.Proofs.Guard.Steps
import Mathlib.Data.List.Basic

/-!
# What a capture holds on the way

While a capture is started or stopped it holds some descriptors and not others: the two ends of
a pipe and the copy of the saved descriptor, for each stream.  A `Rig` gives these descriptors
their numbers, and `Rig.Stands` says which of them are held and which streams are pointed at
their pipes, everything else being as it was at first.

Every system call of a capture takes one such state to another.  As long as a stream is pointed
at its pipe the reading end of the pipe is held, so that whatever is written can be read.
-/

namespace CompileDriver

open Function (update)

/-- A descriptor that a capture can hold. -/
inductive Slot
  /-- The reading end of the pipe of a stream. -/
  | source (stream : Stream)
  /-- The writing end. -/
  | writer (stream : Stream)
  /-- The copy of the saved descriptor of a stream. -/
  | copy (stream : Stream)
  deriving DecidableEq

/-- The numbers of the descriptors of a capture, and its pipes. -/
structure Rig where
  number : Slot → Nat
  pipe : Stream → Nat

namespace Rig

/-- What a descriptor refers to, when the numbers referred to `origin` at first. -/
def file (rig : Rig) (origin : OpenFiles) : Slot → Option OpenFile
  | .source stream => some (.pipeReader (rig.pipe stream))
  | .writer stream => some (.pipeWriter (rig.pipe stream))
  | .copy stream => origin stream.number

/-- A descriptor gets a number. -/
def take (rig : Rig) (slot : Slot) (number : Nat) : Rig :=
  { rig with number := update rig.number slot number }

/-- A stream gets a pipe. -/
def withPipe (rig : Rig) (stream : Stream) (pipe : Nat) : Rig :=
  { rig with pipe := update rig.pipe stream pipe }

/-- The descriptors in `held` are held, and the streams in `aimed` are pointed at their pipes;
everything else refers to what it referred to at first. -/
structure Stands (rig : Rig) (origin : OpenFiles) (held : List Slot) (aimed : List Stream)
    (files : OpenFiles) : Prop where
  streams : ∀ stream : Stream, files stream.number =
    if stream ∈ aimed then some (.pipeWriter (rig.pipe stream)) else origin stream.number
  slots : ∀ slot ∈ held, files (rig.number slot) = rig.file origin slot
  isFree : ∀ slot ∈ held, origin (rig.number slot) = none
  apart : ∀ slot ∈ held, ∀ other ∈ held, rig.number slot = rig.number other → slot = other
  others : ∀ number, (∀ stream : Stream, number ≠ stream.number) →
    (∀ slot ∈ held, number ≠ rig.number slot) → files number = origin number

namespace Stands

variable {rig : Rig} {origin files : OpenFiles} {held : List Slot} {aimed : List Stream}

/-- At first nothing is held. -/
theorem initially (rig : Rig) (origin : OpenFiles) : rig.Stands origin [] [] origin where
  streams _ := rfl
  slots := nofun
  isFree := nofun
  apart := nofun
  others _ _ _ := rfl

/-- In the end everything is as it was. -/
theorem eq_origin (stands : rig.Stands origin [] [] files) : files = origin := by
  funext number
  by_cases isStream : ∃ stream : Stream, number = stream.number
  · obtain ⟨stream, rfl⟩ := isStream
    exact stands.streams stream
  · exact stands.others number (fun stream same => isStream ⟨stream, same⟩) nofun

section

variable (isOpen : ∀ stream : Stream, origin stream.number ≠ none)

include isOpen

theorem stream_ne_none (stands : rig.Stands origin held aimed files) (stream : Stream) :
    files stream.number ≠ none := by
  rw [stands.streams]
  split
  · simp
  · exact isOpen stream

theorem file_ne_none (slot : Slot) : rig.file origin slot ≠ none := by
  cases slot with
  | source | writer => simp [file]
  | copy stream => exact isOpen stream

/-- What is held has the number of no stream. -/
theorem number_ne_stream (stands : rig.Stands origin held aimed files) {slot : Slot}
    (member : slot ∈ held) (stream : Stream) : rig.number slot ≠ stream.number := by
  intro same
  exact isOpen stream (same ▸ stands.isFree slot member)

/-! ### Changes -/

/-- A descriptor is acquired under a free number. -/
theorem take (stands : rig.Stands origin held aimed files) {slot : Slot} (isNew : slot ∉ held)
    {number : Nat} (numberFree : files number = none) {file : OpenFile}
    (known : rig.file origin slot = some file) :
    (rig.take slot number).Stands origin (slot :: held) aimed
      (update files number (some file)) := by
  have notStream (stream : Stream) : stream.number ≠ number := by
    rintro rfl
    exact stands.stream_ne_none isOpen stream numberFree
  have notHeld {other : Slot} (member : other ∈ held) : rig.number other ≠ number := by
    rintro rfl
    exact file_ne_none isOpen other (stands.slots other member ▸ numberFree)
  have numbered {other : Slot} (member : other ∈ held) :
      (rig.take slot number).number other = rig.number other := by
    have different : other ≠ slot := fun same => isNew (same ▸ member)
    exact Function.update_of_ne different _ _
  have own : (rig.take slot number).number slot = number := Function.update_self _ _ _
  have wasFree : origin number = none := by
    rw [← numberFree, stands.others number (fun stream => (notStream stream).symm)
      fun other member => (notHeld member).symm]
  constructor
  · intro stream
    rw [Function.update_of_ne (notStream stream)]
    exact stands.streams stream
  · intro other member
    rcases List.mem_cons.mp member with rfl | earlier
    · rw [own, Function.update_self]
      exact known.symm
    · rw [numbered earlier, Function.update_of_ne (notHeld earlier)]
      exact stands.slots other earlier
  · intro other member
    rcases List.mem_cons.mp member with rfl | earlier
    · rw [own, wasFree]
    · rw [numbered earlier, stands.isFree other earlier]
  · intro first firstHeld second secondHeld same
    rcases List.mem_cons.mp firstHeld with rfl | firstEarlier
    · rcases List.mem_cons.mp secondHeld with rfl | secondEarlier
      · rfl
      · rw [own, numbered secondEarlier] at same
        exact absurd same.symm (notHeld secondEarlier)
    · rcases List.mem_cons.mp secondHeld with rfl | secondEarlier
      · rw [own, numbered firstEarlier] at same
        exact absurd same (notHeld firstEarlier)
      · rw [numbered firstEarlier, numbered secondEarlier] at same
        exact stands.apart first firstEarlier second secondEarlier same
  · intro other apart unheld
    have different : other ≠ number := own ▸ unheld slot List.mem_cons_self
    rw [Function.update_of_ne different]
    apply stands.others other apart
    intro earlier member
    rw [← numbered member]
    exact unheld earlier (List.mem_cons_of_mem _ member)

/-- A descriptor is closed. -/
theorem drop (stands : rig.Stands origin held aimed files) {slot : Slot} (member : slot ∈ held) :
    rig.Stands origin (held.filter (· ≠ slot)) aimed (update files (rig.number slot) none) := by
  have kept {other : Slot} (left : other ∈ held.filter (· ≠ slot)) :
      other ∈ held ∧ rig.number other ≠ rig.number slot := by
    obtain ⟨earlier, different⟩ := List.mem_filter.mp left
    exact ⟨earlier, fun same => of_decide_eq_true different (stands.apart _ earlier _ member same)⟩
  constructor
  · intro stream
    rw [Function.update_of_ne (stands.number_ne_stream isOpen member stream).symm]
    exact stands.streams stream
  · intro other left
    rw [Function.update_of_ne (kept left).2]
    exact stands.slots other (kept left).1
  · exact fun other left => stands.isFree other (kept left).1
  · exact fun first firstLeft second secondLeft =>
      stands.apart first (kept firstLeft).1 second (kept secondLeft).1
  · intro number apart unheld
    by_cases same : number = rig.number slot
    · rw [same, Function.update_self, stands.isFree slot member]
    · rw [Function.update_of_ne same]
      apply stands.others number apart
      intro other earlier
      by_cases isSlot : other = slot
      · exact isSlot ▸ same
      · exact unheld other (List.mem_filter.mpr ⟨earlier, decide_eq_true isSlot⟩)

/-- A stream is pointed at a file, its own pipe or what it referred to at first. -/
theorem point (stands : rig.Stands origin held aimed files) (stream : Stream) {file : OpenFile}
    {now : List Stream}
    (known : (if stream ∈ now then some (.pipeWriter (rig.pipe stream)) else origin stream.number) =
      some file)
    (same : ∀ other, other ≠ stream → (other ∈ now ↔ other ∈ aimed)) :
    rig.Stands origin held now (update files stream.number (some file)) := by
  constructor
  · intro other
    by_cases isStream : other = stream
    · rw [isStream, Function.update_self, known]
    · have different : other.number ≠ stream.number := fun numbers =>
        isStream (Stream.number_injective numbers)
      rw [Function.update_of_ne different, stands.streams]
      simp only [same other isStream]
  · intro slot member
    rw [Function.update_of_ne (stands.number_ne_stream isOpen member stream)]
    exact stands.slots slot member
  · exact stands.isFree
  · exact stands.apart
  · intro number apart unheld
    rw [Function.update_of_ne (apart stream)]
    exact stands.others number apart unheld

omit isOpen in
/-- A stream that holds nothing gets a pipe. -/
theorem withPipe (stands : rig.Stands origin held aimed files) {stream : Stream} (pipe : Nat)
    (unheld : .source stream ∉ held ∧ .writer stream ∉ held) (unaimed : stream ∉ aimed) :
    (rig.withPipe stream pipe).Stands origin held aimed files := by
  constructor
  · intro other
    rw [stands.streams other]
    by_cases isStream : other = stream
    · rw [isStream, if_neg unaimed, if_neg unaimed]
    · simp [Rig.withPipe, Function.update_of_ne isStream]
  · intro slot member
    rw [show (rig.withPipe stream pipe).number slot = rig.number slot from rfl,
      stands.slots slot member]
    cases slot with
    | source other =>
        have different : other ≠ stream := by
          rintro rfl
          exact unheld.1 member
        simp [file, Rig.withPipe, Function.update_of_ne different]
    | writer other =>
        have different : other ≠ stream := by
          rintro rfl
          exact unheld.2 member
        simp [file, Rig.withPipe, Function.update_of_ne different]
    | copy other => rfl
  · exact stands.isFree
  · exact stands.apart
  · exact stands.others

end

end Stands

/-! ## Readers -/

/-- A stream that is pointed at its pipe has the reading end held, and the copy of what it
referred to at first. -/
def Covers (held : List Slot) (aimed : List Stream) : Prop :=
  ∀ stream ∈ aimed, .source stream ∈ held ∧ .copy stream ∈ held

instance (held : List Slot) (aimed : List Stream) : Decidable (Covers held aimed) :=
  inferInstanceAs (Decidable (∀ stream ∈ aimed, _ ∧ _))

theorem Covers.none (held : List Slot) : Covers held [] :=
  List.forall_mem_nil _

end Rig

/-- The streams refer to what they referred to at first, or to pipes of which the reading end is
held, and nothing has gone that was open at first. -/
structure Readable (origin files : OpenFiles) : Prop where
  streams : ∀ stream : Stream, files stream.number = origin stream.number ∨
    ∃ pipe, files stream.number = some (.pipeWriter pipe) ∧
      ∃ number, files number = some (.pipeReader pipe)
  kept : ∀ number file, origin number = some file → ∃ other, files other = some file

namespace Rig

variable {rig : Rig} {origin files : OpenFiles} {held : List Slot} {aimed : List Stream}

theorem Stands.readable (stands : rig.Stands origin held aimed files)
    (covers : Covers held aimed) : Readable origin files where
  streams stream := by
    have found := stands.streams stream
    split at found
    · rename_i isAimed
      exact .inr ⟨_, found, _, stands.slots _ (covers stream isAimed).1⟩
    · exact .inl found
  kept number file found := by
    by_cases isStream : ∃ stream : Stream, number = stream.number
    · obtain ⟨stream, rfl⟩ := isStream
      by_cases isAimed : stream ∈ aimed
      · exact ⟨_, (stands.slots _ (covers stream isAimed).2).trans found⟩
      · exact ⟨_, (stands.streams stream).trans ((if_neg isAimed).trans found)⟩
    · refine ⟨number, (stands.others number (fun stream same => isStream ⟨stream, same⟩) ?_).trans
        found⟩
      rintro slot member rfl
      rw [stands.isFree slot member] at found
      cases found

end Rig

end CompileDriver
