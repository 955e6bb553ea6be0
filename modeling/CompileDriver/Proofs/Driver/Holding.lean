import CompileDriver.Driver
import CompileDriver.Proofs.Guard.Restore

/-!
# Holding descriptors

A session may hold descriptors of its own between its calls.  `Keeps` says what
a stretch of a request does to the open files when the session held some numbers
before it and holds some numbers after it: numbers of others are not touched, and
what is open afterwards was open before, is held by the session, or has been
leaked by the toolchain.

Guards can be set up around such a stretch: when the guard is given up at its
end, the stretch with the guard keeps what the stretch alone keeps.
-/

namespace CompileDriver

open Function (update)

/-- What happens to the open files while a session that held the numbers of
`mine` comes to hold those of `theirs`. -/
structure Keeps (leaks mine theirs : Nat → Prop) (before after : OpenFiles) : Prop where
  /-- A number that was open and not held by the session is as it was. -/
  kept : ∀ number, ¬ mine number → before number ≠ none → after number = before number
  /-- What is open was open and not held, or it is held or leaked now. -/
  known : ∀ number, after number ≠ none →
    (before number ≠ none ∧ ¬ mine number) ∨ theirs number ∨ leaks number
  /-- The session only comes to hold free numbers. -/
  claimed : ∀ number, theirs number → mine number ∨ before number = none
  held : ∀ number, theirs number → after number ≠ none

namespace Keeps

variable {leaks mine middle theirs : Nat → Prop} {before between after : OpenFiles}

theorem refl (held : ∀ number, mine number → before number ≠ none) :
    Keeps leaks mine mine before before where
  kept _ _ _ := rfl
  known number used := by
    by_cases own : mine number
    · exact .inr (.inl own)
    · exact .inl ⟨used, own⟩
  claimed _ own := .inl own
  held := held

theorem trans (first : Keeps leaks mine middle before between)
    (rest : Keeps leaks middle theirs between after) : Keeps leaks mine theirs before after where
  kept number notMine used := by
    have stillUsed := first.kept number notMine used
    have notMiddle : ¬ middle number := by
      intro own
      rcases first.claimed number own with isMine | isFree
      · exact notMine isMine
      · exact used isFree
    rw [rest.kept number notMiddle (stillUsed ▸ used), stillUsed]
  known number used := by
    rcases rest.known number used with ⟨usedBetween, notMiddle⟩ | held | leaked
    · rcases first.known number usedBetween with early | held | leaked
      · exact .inl early
      · exact absurd held notMiddle
      · exact .inr (.inr leaked)
    · exact .inr (.inl held)
    · exact .inr (.inr leaked)
  claimed number own := by
    rcases rest.claimed number own with isMiddle | isFree
    · exact first.claimed number isMiddle
    · by_cases isMine : mine number
      · exact .inl isMine
      · refine .inr (by_contra fun used => ?_)
        rw [first.kept number isMine used] at isFree
        exact used isFree
  held := rest.held

end Keeps

/-! ## Detours -/

/-- A guard has taken the free numbers of `own` and made the open numbers of
`moved` point elsewhere. -/
structure Detour (own moved : Nat → Prop) (before between : OpenFiles) : Prop where
  isFree : ∀ number, own number → before number = none
  taken : ∀ number, own number → between number ≠ none
  wasOpen : ∀ number, moved number → before number ≠ none
  others : ∀ number, ¬ own number → ¬ moved number → between number = before number

namespace Detour

variable {leaks mine theirs own moved : Nat → Prop} {before between after : OpenFiles}

/-- A number that the guard has taken is not held by the session. -/
theorem own_kept (detour : Detour own moved before between)
    (held : ∀ number, mine number → before number ≠ none)
    (stretch : Keeps leaks mine theirs between after) {number : Nat} (isOwn : own number) :
    after number = between number :=
  stretch.kept number (fun isMine => held number isMine (detour.isFree number isOwn))
    (detour.taken number isOwn)

/-- When the guard is given up after a stretch, its numbers are free and what it
has moved is back in place, the stretch keeps what it would keep without the
guard. -/
theorem keeps (detour : Detour own moved before between)
    (held : ∀ number, mine number → before number ≠ none)
    (notHeld : ∀ number, moved number → ¬ mine number ∧ ¬ theirs number)
    (stretch : Keeps leaks mine theirs between after) {final : OpenFiles}
    (closed : ∀ number, own number → final number = none)
    (restored : ∀ number, moved number → final number = before number)
    (rest : ∀ number, ¬ own number → ¬ moved number → final number = after number) :
    Keeps leaks mine theirs before final := by
  have ownNotTheirs {number : Nat} (isOwn : own number) : ¬ theirs number := by
    intro isTheirs
    rcases stretch.claimed number isTheirs with isMine | isFree
    · exact held number isMine (detour.isFree number isOwn)
    · exact detour.taken number isOwn isFree
  constructor
  · intro number notMine used
    have notOwn : ¬ own number := fun isOwn => used (detour.isFree number isOwn)
    by_cases isMoved : moved number
    · exact restored number isMoved
    · have same := detour.others number notOwn isMoved
      rw [rest number notOwn isMoved, stretch.kept number notMine (same ▸ used), same]
  · intro number used
    have notOwn : ¬ own number := fun isOwn => used (closed number isOwn)
    by_cases isMoved : moved number
    · exact .inl ⟨detour.wasOpen number isMoved, (notHeld number isMoved).1⟩
    · rw [rest number notOwn isMoved] at used
      rw [← detour.others number notOwn isMoved]
      exact stretch.known number used
  · intro number isTheirs
    rcases stretch.claimed number isTheirs with isMine | isFree
    · exact .inl isMine
    · have notMoved : ¬ moved number := fun isMoved => (notHeld number isMoved).2 isTheirs
      rw [detour.others number (fun isOwn => ownNotTheirs isOwn isTheirs) notMoved] at isFree
      exact .inr isFree
  · intro number isTheirs
    have notMoved : ¬ moved number := fun isMoved => (notHeld number isMoved).2 isTheirs
    rw [rest number (fun isOwn => ownNotTheirs isOwn isTheirs) notMoved]
    exact stretch.held number isTheirs

end Detour

namespace Keeps

variable {leaks mine theirs : Nat → Prop} {before between after : OpenFiles}

/-- A stretch under a wiring that is released at its end. -/
theorem under_wiring {wiring : Wiring} (connects : wiring.Connects before between)
    (held : ∀ number, mine number → before number ≠ none)
    (notHeld : ∀ stream : Stream, ¬ mine stream.number ∧ ¬ theirs stream.number)
    (stretch : Keeps leaks mine theirs between after) :
    (∀ stream, after (wiring.copies.get stream) ≠ none) ∧
      Keeps leaks mine theirs before (wiring.released after) := by
  have detour : Detour (· ∈ wiring.numbers)
      (fun number => number ∉ wiring.numbers ∧ ∃ stream : Stream, number = stream.number)
      before between :=
    { isFree := connects.isFree
      taken := connects.taken
      wasOpen := by
        rintro number ⟨notMember, stream, rfl⟩
        exact ((connects.streams stream).2 notMember).1
      others := fun number notMember notMoved =>
        connects.others number notMember fun stream same => notMoved ⟨notMember, stream, same⟩ }
  have copyMember (stream : Stream) : wiring.copies.get stream ∈ wiring.numbers :=
    Wiring.mem_numbers.mpr ⟨stream, .inr (.inr rfl)⟩
  have copyKept (stream : Stream) := detour.own_kept held stretch (copyMember stream)
  constructor
  · intro stream
    rw [copyKept stream]
    exact connects.taken _ (copyMember stream)
  · refine detour.keeps held ?_ stretch (fun _ member => Wiring.released_mem member after) ?_ ?_
    · rintro number ⟨-, stream, rfl⟩
      exact notHeld stream
    · rintro number ⟨notMember, stream, rfl⟩
      rw [Wiring.released_stream notMember, copyKept stream]
      exact ((connects.streams stream).2 notMember).2
    · exact fun number notMember notMoved =>
        Wiring.released_other notMember
          (fun stream same => notMoved ⟨notMember, stream, same⟩) after

/-- A stretch while a stream is hidden that is shown again at its end. -/
theorem under_suppressor {stream : Stream} {copy : Nat} {file device : OpenFile}
    (found : before stream.number = some file) (isFree : before copy = none)
    (held : ∀ number, mine number → before number ≠ none)
    (notHeld : ¬ mine stream.number ∧ ¬ theirs stream.number)
    (stretch : Keeps leaks mine theirs
      (update (update before copy (some file)) stream.number (some device)) after) :
    after copy = some file ∧
      Keeps leaks mine theirs before
        (update (update after stream.number (some file)) copy none) := by
  have different : copy ≠ stream.number := by
    rintro rfl
    rw [found] at isFree
    cases isFree
  have copied : update (update before copy (some file)) stream.number (some device) copy =
      some file := by
    rw [Function.update_of_ne different, Function.update_self]
  have detour : Detour (· = copy) (· = stream.number) before
      (update (update before copy (some file)) stream.number (some device)) :=
    { isFree := by
        rintro _ rfl
        exact isFree
      taken := by
        rintro _ rfl
        simp [copied]
      wasOpen := by
        rintro _ rfl
        simp [found]
      others := fun number notCopy notStream => by
        rw [Function.update_of_ne notStream, Function.update_of_ne notCopy] }
  have copyKept := detour.own_kept held stretch rfl
  refine ⟨copyKept.trans copied, detour.keeps held ?_ stretch ?_ ?_ ?_⟩
  · rintro _ rfl
    exact notHeld
  · rintro _ rfl
    exact Function.update_self _ _ _
  · rintro _ rfl
    rw [Function.update_of_ne different.symm, Function.update_self, found]
  · intro number notCopy notStream
    rw [Function.update_of_ne notCopy, Function.update_of_ne notStream]

end Keeps

end CompileDriver
