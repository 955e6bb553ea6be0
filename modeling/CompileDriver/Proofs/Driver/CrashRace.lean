import CompileDriver.Crash
import CompileDriver.Proofs.Host.Passage
import CompileDriver.Proofs.Host.View
import Mathlib.Data.List.Induction

/-!
# Panicking threads

Any number of threads can panic at about the same time.  Each of them first sets the flag
that a crash report has been begun, and so learns whether it is the first one; the first one
writes its report, part by part, and every thread ends the process when it has nothing left
to write.  A schedule says which thread makes each move.

Of all threads only the first one writes, so that what has been written at any time is the
front of one report.  Nothing makes the other threads wait for its end: the report is complete
when it is the first thread itself that ends the process.
-/

namespace CompileDriver

namespace CrashReport

/-- The complete report of a panic. -/
def bytes (panic : Panic) : Bytes :=
  (parts panic).flatMap Bytes.ofText

/-- How many moves a thread makes at most: it looks at the flag, writes the parts and ends
the process. -/
def moves (panic : Panic) : Nat :=
  (parts panic).length + 2

end CrashReport

/-- A thread that has panicked. -/
structure CrashingThread where
  panic : Panic
  /-- The parts that it has still to write, once it has looked at the flag. -/
  left : Option (List String) := none
  deriving Repr, DecidableEq

/-- How many moves a thread still makes at most. -/
def CrashingThread.movesLeft (thread : CrashingThread) : Nat :=
  match thread.left with
  | none => CrashReport.moves thread.panic
  | some left => left.length + 1

/-- Threads that have panicked, on the host that they share. -/
structure CrashRace where
  host : Host
  threads : List CrashingThread
  /-- The thread that has ended the process, with the exit code. -/
  ended : Option (Nat × Nat) := none

namespace CrashRace

/-- All threads have panicked, and none has looked at the flag. -/
def start (panics : List Panic) (host : Host) : CrashRace :=
  { host, threads := panics.map fun panic => { panic } }

/-- The race on a host where a thread has these parts left. -/
def afterwards (race : CrashRace) (host : Host) (number : Nat) (panic : Panic)
    (left : List String) : CrashRace :=
  { race with host, threads := race.threads.set number { panic, left := some left } }

/-- One move of a thread, unless the process has ended. -/
def move (race : CrashRace) (number : Nat) : CrashRace :=
  match race.ended, race.threads[number]? with
  | none, some { panic, left := none } =>
      let parts := if race.host.crashReported then [] else CrashReport.parts panic
      race.afterwards { race.host with crashReported := true } number panic parts
  | none, some { panic, left := some (part :: rest) } =>
      race.afterwards (Stream.stderr.write (Bytes.ofText part) race.host).2 number panic rest
  | none, some { left := some [], .. } => { race with ended := some (number, CrashReport.exitCode) }
  | _, _ => race

/-- The moves of a schedule, one after the other. -/
def run (race : CrashRace) (schedule : List Nat) : CrashRace :=
  schedule.foldl move race

variable {race : CrashRace} {number : Nat} {panic : Panic}

/-! ## Moves -/

theorem move_of_ended (hasEnded : race.ended ≠ none) (number : Nat) : race.move number = race := by
  obtain ⟨last, isOver⟩ := Option.ne_none_iff_exists'.mp hasEnded
  simp [move, isOver]

theorem move_of_absent (absent : race.threads[number]? = none) : race.move number = race := by
  cases hasEnded : race.ended <;> simp [move, hasEnded, absent]

section

variable (going : race.ended = none)

include going

theorem move_of_waiting (found : race.threads[number]? = some { panic }) :
    race.move number = race.afterwards { race.host with crashReported := true } number panic
      (if race.host.crashReported then [] else CrashReport.parts panic) := by
  simp [move, going, found]

theorem move_of_writing {part : String} {rest : List String}
    (found : race.threads[number]? = some { panic, left := some (part :: rest) }) :
    race.move number =
      race.afterwards (Stream.stderr.write (Bytes.ofText part) race.host).2 number panic rest := by
  simp [move, going, found]

theorem move_of_done (found : race.threads[number]? = some { panic, left := some [] }) :
    race.move number = { race with ended := some (number, CrashReport.exitCode) } := by
  simp [move, going, found]

end

theorem run_of_ended (hasEnded : race.ended ≠ none) (schedule : List Nat) :
    race.run schedule = race := by
  induction schedule with
  | nil => rfl
  | cons number rest ih => rw [run, List.foldl_cons, move_of_ended hasEnded, ← run, ih]

/-! ## Who writes -/

/-- What a thread writes reaches the file of standard error and leaves all descriptors and the
flag alone. -/
theorem write_stderr {base host : Host} {file : OpenFile}
    (found : host.opened Stream.stderr.number = some file)
    (takes : host.opened.Takes Stream.stderr.number) (grown : base.journal <:+ host.journal)
    (bytes : Bytes) :
    (Stream.stderr.write bytes host).2.opened = host.opened ∧
      (Stream.stderr.write bytes host).2.crashReported = host.crashReported ∧
      base.journal <:+ (Stream.stderr.write bytes host).2.journal ∧
      (Stream.stderr.write bytes host).2.passedSince base Stream.stderr.number file =
        host.passedSince base Stream.stderr.number file ++ bytes := by
  have utterances := Stream.write_utterances .stderr bytes host
  have speaks : Speaks (fun _ => False) (Stream.stderr.write bytes) fun _ => True :=
    .writeStream (fun _ => not_false) .stderr bytes
  have unseen := speaks.unseen host trivial
  obtain ⟨moments, more, -⟩ := utterances.steps.quiet
  refine ⟨utterances.still.1, congrArg View.crashReported unseen.1, ?_, ?_⟩
  · exact grown.trans ⟨moments, more.symm⟩
  · have wrote : (Stream.stderr.write bytes host).2 =
        (SystemCall.write Stream.stderr.number bytes host).2 :=
      Stream.stderr.writeOut_host bytes host
    rw [wrote, Host.passedSince_write found takes grown]

/-- Where a thread stands when `written` has been written of the report of the first
thread: the first thread has the rest left, and all others have nothing to write. -/
structure Stands (first : Option Nat) (written : Bytes) (number : Nat)
    (thread : CrashingThread) : Prop where
  writer : first = some number → ∃ left, thread.left = some left ∧
    CrashReport.bytes thread.panic = written ++ left.flatMap Bytes.ofText
  others : first ≠ some number →
    thread.left = none ∨ thread.left = some [] ∧ first ≠ none

/-- Standard error is `file`, which takes what is written; what has reached it since `base`
is the front of the report of the first thread that looked at the flag. -/
structure Orderly (base : Host) (file : OpenFile) (panics : List Panic) (first : Option Nat)
    (race : CrashRace) : Prop where
  panics : race.threads.map CrashingThread.panic = panics
  found : race.host.opened Stream.stderr.number = some file
  takes : race.host.opened.Takes Stream.stderr.number
  grown : base.journal <:+ race.host.journal
  flag : race.host.crashReported = first.isSome
  unbegun : first = none → race.host.passedSince base Stream.stderr.number file = []
  stands : ∀ number thread, race.threads[number]? = some thread →
    Stands first (race.host.passedSince base Stream.stderr.number file) number thread
  ended : ∀ number code, race.ended = some (number, code) → code = CrashReport.exitCode ∧
    ∃ panic, race.threads[number]? = some { panic, left := some [] }

namespace Orderly

variable {base : Host} {file : OpenFile} {panics : List Panic} {first next : Option Nat}

theorem start (panics : List Panic) {host : Host}
    (found : host.opened Stream.stderr.number = some file)
    (takes : host.opened.Takes Stream.stderr.number) (fresh : host.crashReported = false) :
    Orderly host file panics none (CrashRace.start panics host) where
  panics := by simp [CrashRace.start, Function.comp_def]
  found := found
  takes := takes
  grown := List.suffix_refl _
  flag := fresh
  unbegun _ := host.passedSince_self _ _
  stands number thread isThread := by
    obtain ⟨panic, -, rfl⟩ := Option.map_eq_some_iff.mp
      (List.getElem?_map (f := fun panic : Panic => ({ panic } : CrashingThread)) ▸ isThread)
    exact ⟨by simp, fun _ => .inl rfl⟩
  ended _ _ hasEnded := by cases hasEnded

/-- A move of one thread leaves the race orderly if that thread and all others stand where
they should afterwards. -/
theorem afterwards (orderly : Orderly base file panics first race) (going : race.ended = none)
    {old : Option (List String)} (isThread : race.threads[number]? = some { panic, left := old })
    {host : Host} {left : List String} (files : host.opened = race.host.opened)
    (grown : base.journal <:+ host.journal) (flag : host.crashReported = next.isSome)
    (begun : next ≠ none)
    (own : Stands next (host.passedSince base Stream.stderr.number file) number
      { panic, left := some left })
    (others : ∀ other thread, other ≠ number → race.threads[other]? = some thread →
      Stands next (host.passedSince base Stream.stderr.number file) other thread) :
    Orderly base file panics next (race.afterwards host number panic left) where
  panics := by
    rw [← orderly.panics, CrashRace.afterwards, List.map_set]
    have same : (race.threads.map CrashingThread.panic)[number]? = some panic := by
      rw [List.getElem?_map, isThread]
      rfl
    obtain ⟨inside, isPanic⟩ := List.getElem?_eq_some_iff.mp same
    rw [← isPanic]
    exact List.set_getElem_self inside
  found := files ▸ orderly.found
  takes := files ▸ orderly.takes
  grown := grown
  flag := flag
  unbegun isNone := absurd isNone begun
  stands other thread found := by
    rw [CrashRace.afterwards, List.getElem?_set] at found
    by_cases same : number = other
    · subst same
      simp only [if_true] at found
      obtain ⟨-, ⟨⟩⟩ := Option.ite_none_right_eq_some.mp found
      exact own
    · rw [if_neg same] at found
      exact others other thread (Ne.symm same) found
  ended other code hasEnded := absurd hasEnded (by simp [CrashRace.afterwards, going])

/-- A thread looks at the flag.  If it is the first one it has its whole report left, and
otherwise nothing. -/
theorem look (orderly : Orderly base file panics first race) (going : race.ended = none)
    (isThread : race.threads[number]? = some { panic }) :
    Orderly base file panics (first.or (some number)) (race.move number) := by
  have notFirst : first ≠ some number := by
    intro isFirst
    obtain ⟨left, begun, -⟩ := (orderly.stands number _ isThread).writer isFirst
    cases begun
  have flagged : Host.passedSince { race.host with crashReported := true } base =
      race.host.passedSince base := Host.passedSince_of_journal rfl
  rw [move_of_waiting going isThread, orderly.flag]
  cases first with
  | none =>
      refine orderly.afterwards going isThread rfl orderly.grown rfl (by simp) ⟨?_, ?_⟩ ?_
      · intro _
        refine ⟨_, rfl, ?_⟩
        rw [flagged, orderly.unbegun rfl]
        rfl
      · exact fun other => absurd rfl other
      · intro other thread apart found
        refine ⟨fun same => absurd (Option.some.inj same).symm apart, fun _ => ?_⟩
        exact ((orderly.stands other thread found).others (by simp)).imp_right fun done =>
          absurd rfl done.2
  | some leader =>
      refine orderly.afterwards going isThread rfl orderly.grown rfl (by simp) ⟨?_, ?_⟩ ?_
      · exact fun isFirst => absurd isFirst notFirst
      · exact fun _ => .inr ⟨rfl, by simp⟩
      · intro other thread _ found
        rw [flagged]
        exact orderly.stands other thread found

/-- The first thread writes a part of its report. -/
theorem write (orderly : Orderly base file panics first race) (going : race.ended = none)
    {part : String} {rest : List String}
    (isThread : race.threads[number]? = some { panic, left := some (part :: rest) }) :
    Orderly base file panics first (race.move number) := by
  have isFirst : first = some number := by
    by_contra other
    rcases (orderly.stands number _ isThread).others other with waits | ⟨done, -⟩
    · cases waits
    · cases done
  obtain ⟨files, reported, grown, passed⟩ :=
    write_stderr orderly.found orderly.takes orderly.grown (Bytes.ofText part)
  rw [move_of_writing going isThread]
  refine orderly.afterwards going isThread files grown (reported.trans orderly.flag)
    (by simp [isFirst]) ⟨fun _ => ⟨rest, rfl, ?_⟩, fun other => absurd isFirst other⟩ ?_
  · obtain ⟨left, same, whole⟩ := (orderly.stands number _ isThread).writer isFirst
    obtain rfl := Option.some.inj same
    rw [passed, List.append_assoc]
    exact whole
  · intro other thread apart found
    refine ⟨fun same => ?_, (orderly.stands other thread found).others⟩
    exact absurd (Option.some.inj (isFirst.symm.trans same)).symm apart

/-- A thread that has nothing left ends the process. -/
theorem exit (orderly : Orderly base file panics first race) (going : race.ended = none)
    (isThread : race.threads[number]? = some { panic, left := some [] }) :
    Orderly base file panics first (race.move number) := by
  rw [move_of_done going isThread]
  refine { orderly with ended := ?_ }
  rintro _ _ ⟨⟩
  exact ⟨rfl, panic, isThread⟩

/-- Somebody has looked at the flag before a thread has anything left, or nothing. -/
theorem begun (orderly : Orderly base file panics first race) {thread : CrashingThread}
    {left : List String} (isThread : race.threads[number]? = some thread)
    (hasLeft : thread.left = some left) : first ≠ none := by
  rintro rfl
  rcases (orderly.stands number thread isThread).others (by simp) with waits | ⟨-, begun⟩
  · rw [waits] at hasLeft
    cases hasLeft
  · exact begun rfl

/-- Every move keeps the race orderly, and a first move makes its thread the first one. -/
theorem move (orderly : Orderly base file panics first race) (number : Nat) :
    Orderly base file panics (first.or ([number].find? (· < panics.length)))
      (race.move number) := by
  have stays (begun : first ≠ none) (orderly : Orderly base file panics first (race.move number)) :
      Orderly base file panics (first.or ([number].find? (· < panics.length)))
        (race.move number) := by
    obtain ⟨leader, rfl⟩ := Option.ne_none_iff_exists'.mp begun
    exact orderly
  have sameLength : panics.length = race.threads.length := by
    rw [← orderly.panics, List.length_map]
  cases hasEnded : race.ended with
  | some last =>
      obtain ⟨-, panic, isThread⟩ := orderly.ended last.1 last.2 hasEnded
      apply stays (orderly.begun isThread rfl)
      rw [move_of_ended (by simp [hasEnded])]
      exact orderly
  | none =>
      cases isThread : race.threads[number]? with
      | none =>
          have outside : ¬ number < panics.length := by
            rw [sameLength]
            exact Nat.not_lt.mpr (List.getElem?_eq_none_iff.mp isThread)
          rw [move_of_absent isThread]
          simpa [outside] using orderly
      | some thread =>
          have inside : number < panics.length := by
            rw [sameLength]
            exact (List.getElem?_eq_some_iff.mp isThread).1
          obtain ⟨panic, _ | _ | ⟨part, rest⟩⟩ := thread
          · simpa [inside] using orderly.look hasEnded isThread
          · exact stays (orderly.begun isThread rfl) (orderly.exit hasEnded isThread)
          · exact stays (orderly.begun isThread rfl) (orderly.write hasEnded isThread)

/-- So does a whole schedule.  The first thread is the one that the schedule lists first. -/
theorem run (orderly : Orderly base file panics none race) (schedule : List Nat) :
    Orderly base file panics (schedule.find? (· < panics.length)) (race.run schedule) := by
  induction schedule using List.reverseRecOn with
  | nil => exact orderly
  | append_singleton schedule number ih =>
      rw [CrashRace.run, List.foldl_append, List.find?_append]
      exact ih.move number

end Orderly

/-! ## How the race ends -/

/-- As long as the process goes on, a move of a thread brings that thread closer to its end
and leaves the others alone. -/
theorem movesLeft_move {number : Nat} {thread : CrashingThread}
    (isThread : race.threads[number]? = some thread) (mover : Nat)
    (goesOn : (race.move mover).ended = none) :
    ∃ later, (race.move mover).threads[number]? = some later ∧
      later.movesLeft + (if mover = number then 1 else 0) ≤ thread.movesLeft := by
  have going : race.ended = none := by
    by_contra hasEnded
    rw [move_of_ended hasEnded] at goesOn
    exact hasEnded goesOn
  -- the thread that moves has this left afterwards
  have moved {host : Host} {panic : Panic} {old : Option (List String)} {left : List String}
      (isMover : race.threads[mover]? = some { panic, left := old })
      (closer : left.length + 2 ≤ CrashingThread.movesLeft { panic, left := old }) :
      ∃ later, (race.afterwards host mover panic left).threads[number]? = some later ∧
        later.movesLeft + (if mover = number then 1 else 0) ≤ thread.movesLeft := by
    rw [afterwards, List.getElem?_set]
    by_cases same : mover = number
    · subst same
      obtain rfl := Option.some.inj (isMover.symm.trans isThread)
      have inside := (List.getElem?_eq_some_iff.mp isThread).1
      simp only [if_true, if_pos inside]
      exact ⟨_, rfl, closer⟩
    · exact ⟨thread, by rw [if_neg same, isThread], by simp [same]⟩
  cases isMover : race.threads[mover]? with
  | none =>
      have apart : mover ≠ number := by
        rintro rfl
        rw [isThread] at isMover
        cases isMover
      exact ⟨thread, by rw [move_of_absent isMover, isThread], by simp [apart]⟩
  | some other =>
      obtain ⟨panic, _ | _ | ⟨part, rest⟩⟩ := other
      · rw [move_of_waiting going isMover]
        apply moved isMover
        split <;> simp [CrashingThread.movesLeft, CrashReport.moves]
      · rw [move_of_done going isMover] at goesOn
        cases goesOn
      · rw [move_of_writing going isMover]
        exact moved isMover (by simp [CrashingThread.movesLeft])

/-- The process has ended when a thread has made all its moves. -/
theorem ended_of_moves {number : Nat} {thread : CrashingThread}
    (isThread : race.threads[number]? = some thread) {schedule : List Nat}
    (enough : thread.movesLeft ≤ schedule.count number) : (race.run schedule).ended ≠ none := by
  induction schedule generalizing race thread with
  | nil =>
      rw [List.count_nil] at enough
      obtain ⟨panic, _ | left⟩ := thread
      · cases enough
      · cases enough
  | cons mover rest ih =>
      intro goesOn
      have running : (race.move mover).ended = none := by
        by_contra hasEnded
        exact hasEnded (by rwa [run, List.foldl_cons, ← run, run_of_ended hasEnded] at goesOn)
      obtain ⟨later, isLater, closer⟩ := movesLeft_move isThread mover running
      refine ih isLater ?_ goesOn
      simp only [List.count_cons, beq_iff_eq] at enough
      omega

/-- Whoever ends the process, and wherever standard error leads to, the exit code is that of a
crash. -/
theorem code_of_run {last code : Nat} (going : race.ended = none) (schedule : List Nat)
    (hasEnded : (race.run schedule).ended = some (last, code)) : code = CrashReport.exitCode := by
  induction schedule generalizing race with
  | nil => cases going.symm.trans hasEnded
  | cons mover rest ih =>
      rw [run, List.foldl_cons, ← run] at hasEnded
      cases moved : (race.move mover).ended with
      | none => exact ih moved hasEnded
      | some now =>
          rw [run_of_ended (by simp [moved])] at hasEnded
          cases isMover : race.threads[mover]? with
          | none =>
              rw [move_of_absent isMover] at hasEnded
              cases going.symm.trans hasEnded
          | some thread =>
              obtain ⟨panic, _ | _ | ⟨part, rest⟩⟩ := thread
              · rw [move_of_waiting going isMover] at hasEnded
                cases going.symm.trans hasEnded
              · rw [move_of_done going isMover] at hasEnded
                cases hasEnded
                rfl
              · rw [move_of_writing going isMover] at hasEnded
                cases going.symm.trans hasEnded

/-- Of all threads that have panicked since `base` the first one has written to the file: the
front of its report, and all of it if this thread has ended the process. -/
def Reports (base : Host) (file : OpenFile) (panics : List Panic) (schedule : List Nat)
    (race : CrashRace) : Prop :=
  ∀ first panic, schedule.find? (· < panics.length) = some first → panics[first]? = some panic →
    race.host.passedSince base Stream.stderr.number file <+: CrashReport.bytes panic ∧
      ∀ code, race.ended = some (first, code) →
        race.host.passedSince base Stream.stderr.number file = CrashReport.bytes panic

theorem run_reports (panics : List Panic) {host : Host} {file : OpenFile}
    (found : host.opened Stream.stderr.number = some file)
    (takes : host.opened.Takes Stream.stderr.number) (fresh : host.crashReported = false)
    (schedule : List Nat) :
    Reports host file panics schedule ((start panics host).run schedule) := by
  intro first panic isFirst isPanic
  have orderly := (Orderly.start panics found takes fresh).run schedule
  rw [isFirst] at orderly
  rw [← orderly.panics, List.getElem?_map] at isPanic
  obtain ⟨thread, isThread, rfl⟩ := Option.map_eq_some_iff.mp isPanic
  obtain ⟨left, hasLeft, whole⟩ := (orderly.stands first thread isThread).writer rfl
  refine ⟨⟨_, whole.symm⟩, fun code hasEnded => ?_⟩
  obtain ⟨-, other, isDone⟩ := orderly.ended first code hasEnded
  obtain rfl := Option.some.inj (isThread.symm.trans isDone)
  obtain rfl := Option.some.inj hasLeft
  rw [whole, List.flatMap_nil, List.append_nil]

/-! ## A single thread -/

theorem run_writing (panic : Panic) (left : List String) (host : Host) :
    ({ host, threads := [{ panic, left := some left }] } : CrashRace).run
        (List.replicate (left.length + 1) 0) =
      { host := (left.forM (fun part => Stream.stderr.write (Bytes.ofText part)) host).2
        threads := [{ panic, left := some [] }]
        ended := some (0, CrashReport.exitCode) } := by
  induction left generalizing host with
  | nil => rfl
  | cons part rest ih =>
      rw [List.length_cons, List.replicate_succ, run, List.foldl_cons, ← run]
      exact ih _

/-- A thread that panics alone does what the crash handler does, and ends the process. -/
theorem run_alone (panic : Panic) (host : Host) :
    (start [panic] host).run (List.replicate (CrashReport.moves panic) 0) =
      { host := (panic.report host).2
        threads := [{ panic, left := some [] }]
        ended := some (0, CrashReport.exitCode) } := by
  rw [CrashReport.moves, List.replicate_succ, run, List.foldl_cons, ← run]
  cases reported : host.crashReported with
  | false =>
      have looked : (start [panic] host).move 0 =
          { host := { host with crashReported := true }
            threads := [{ panic, left := some (CrashReport.parts panic) }] } := by
        simp [move, start, afterwards, reported]
      rw [looked, run_writing]
      simp [Panic.report, Panic.writeReport, reported]
  | true =>
      have same : { host with crashReported := true } = host := by rw [← reported]
      have looked : (start [panic] host).move 0 =
          { host, threads := [{ panic, left := some [] }] } := by
        simp [move, start, afterwards, reported, same]
      rw [looked, List.replicate_succ, run, List.foldl_cons, ← run, run_of_ended (by simp [move])]
      simp [move, Panic.report, reported]

end CrashRace

end CompileDriver
