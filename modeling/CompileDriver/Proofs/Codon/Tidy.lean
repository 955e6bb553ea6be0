import CompileDriver.Proofs.Codon.Disciplined
import CompileDriver.Proofs.Codon.Driver
import CompileDriver.Proofs.Driver.Tidy
import CompileDriver.Proofs.Guard.Restore
import CompileDriver.Proofs.Host.Files

/-!
# Sessions of the compiler keep no descriptors

Whatever a session opens for a call, for the pipes of the compiler or for the files that it
copies, is closed before the call returns.  No call panics.
-/

namespace CompileDriver

open Function (update)

variable {α : Type} {files : OpenFiles} {threads : List (Nat × Nat)}

/-- Wherever it is performed, the action leaves the open files as they are. -/
theorem Stays.of_shows {action : Action α}
    (shows : ∀ files threads, Ensures (Host.Shows files threads) action fun _ =>
      Host.Shows files threads) : Stays action fun _ => True := by
  intro host _
  have kept := shows host.opened host.threads host ⟨rfl, List.Subset.refl _⟩
  exact ⟨⟨kept.files, kept.threads⟩, trivial⟩

/-- What stays shows what it has shown. -/
theorem Ensures.of_stays {action : Action α} {yields : α → Prop} (stays : Stays action yields) :
    Ensures (Host.Shows files threads) action fun _ => Host.Shows files threads :=
  fun host shows => shows.still (stays host trivial).1

namespace Spawn

/-- The open files without those of some numbers. -/
def without (files : OpenFiles) (numbers : List Nat) : OpenFiles :=
  fun number => if number ∈ numbers then none else files number

theorem shows_closeAll (numbers : List Nat) :
    Ensures (Host.Shows files threads) (closeAll numbers) fun _ =>
      Host.Shows (without files numbers) threads := by
  induction numbers generalizing files with
  | nil =>
      have same : without files [] = files := by
        funext number
        simp [without]
      rw [same]
      exact .value fun _ shows => shows
  | cons number rest ih =>
      have same : without (update files number none) rest = without files (number :: rest) := by
        funext other
        simp only [without, Function.update_apply, List.mem_cons]
        grind
      refine (Ensures.close number).bind fun _ => ?_
      rw [← same]
      exact ih

/-- Some numbers that were free have come into use. -/
structure Took (files : OpenFiles) (numbers : List Nat) (now : OpenFiles) : Prop where
  free : ∀ number ∈ numbers, files number = none
  others : ∀ number, number ∉ numbers → now number = files number

namespace Took

variable {numbers : List Nat} {now : OpenFiles}

theorem none (files : OpenFiles) : Took files [] files :=
  ⟨by simp, fun _ _ => rfl⟩

/-- A number that is free now was free before. -/
theorem free_before (took : Took files numbers now) {number : Nat}
    (isFree : now number = Option.none) :
    files number = Option.none := by
  by_cases member : number ∈ numbers
  · exact took.free number member
  · rw [← took.others number member, isFree]

theorem take (took : Took files numbers now) {number : Nat} (isFree : now number = Option.none)
    (file : OpenFile) : Took files (number :: numbers) (update now number (some file)) where
  free := by
    intro other member
    rcases List.mem_cons.mp member with rfl | earlier
    · exact took.free_before isFree
    · exact took.free other earlier
  others := by
    intro other different
    simp only [List.mem_cons, not_or] at different
    rw [Function.update_of_ne different.1, took.others other different.2]

theorem takePipe (took : Took files numbers now) {ends : Nat × Nat} (new : NewPipe now ends)
    (reader writer : OpenFile) :
    Took files (ends.2 :: ends.1 :: numbers) (now.withPipe ends reader writer) := by
  apply (took.take new.readerFree reader).take
  rw [Function.update_of_ne (Nat.ne_of_gt new.larger), new.writerFree]

/-- What was taken is given back. -/
theorem giveBack (took : Took files numbers now) {given : List Nat}
    (same : ∀ number, number ∈ given ↔ number ∈ numbers) : without now given = files := by
  funext number
  unfold without
  split
  · rename_i member
    exact (took.free number ((same number).mp member)).symm
  · rename_i other
    exact took.others number fun member => other ((same number).mpr member)

end Took

theorem stays_launch (launcher : Launcher) (invocation : Invocation) :
    Stays (launch launcher invocation) fun _ => True :=
  (Speaks.launch launcher invocation).stays

theorem without_append (numbers more : List Nat) :
    without (without files numbers) more = without files (numbers ++ more) := by
  funext number
  simp only [without, List.mem_append]
  grind

theorem shows_collectingOn (launcher : Launcher) (invocation : Invocation) {input : Nat}
    {stdout stderr : Nat × Nat} {now : OpenFiles}
    (took : Took files [stderr.2, stderr.1, stdout.2, stdout.1, input] now) :
    Ensures (Host.Shows now threads) (collectingOn launcher invocation input stdout stderr)
      fun _ => Host.Shows files threads := by
  refine (Ensures.of_stays (stays_launch launcher invocation)).bind fun started => ?_
  refine (shows_closeAll _).bind fun _ => ?_
  cases started with
  | error error =>
      refine (shows_closeAll _).bind fun _ => ?_
      rw [without_append, took.giveBack (by simp; tauto)]
      exact .value fun _ shows => shows
  | ok execution =>
      have left : Ensures (Host.Shows (without now [stderr.2, stdout.2, input]) threads)
          (modify fun host => { host with files := execution.files }) fun _ =>
            Host.Shows (without now [stderr.2, stdout.2, input]) threads :=
        fun _ shows => ⟨shows.files, shows.threads⟩
      refine left.bind fun _ => (shows_closeAll _).bind fun _ => ?_
      rw [without_append, took.giveBack (by simp; tauto)]
      exact .value fun _ shows => shows

/-- A program whose output is collected leaves the open files as they were. -/
theorem shows_collecting (launcher : Launcher) (invocation : Invocation) :
    Ensures (Host.Shows files threads) (collecting launcher invocation) fun _ =>
      Host.Shows files threads := by
  have piped {files : OpenFiles} : Ensures (Host.Shows files threads) SystemCall.pipe
      (Attempt files threads fun ends host => NewPipe files ends ∧
        ∃ name, host.Shows (files.withPipe ends (.pipeReader name) (.pipeWriter name))
          threads) := by
    intro host shows
    have made := Ensures.pipe 0 host ⟨Nat.zero_le _, shows⟩
    cases outcome : (SystemCall.pipe host).1 with
    | error error =>
        rw [outcome] at made
        exact made
    | ok ends =>
        rw [outcome] at made
        obtain ⟨new, name, -, -, shown⟩ := made
        exact ⟨new, name, shown⟩
  unfold collecting
  split
  · exact .value fun _ shows => shows
  · refine Ensures.openDiscard.bind fun opened => ?_
    cases opened with
    | error error => exact .value fun _ shows => shows
    | ok input =>
        refine .given fun inputFree => .chosen fun opening => piped.bind fun made => ?_
        have first := (Took.none files).take inputFree (.discard opening)
        cases made with
        | error error =>
            refine (shows_closeAll [input]).bind fun _ => ?_
            rw [first.giveBack fun _ => .rfl]
            exact .value fun _ shows => shows
        | ok stdout =>
            refine .given fun stdoutNew => .chosen fun name => piped.bind fun made => ?_
            have second := first.takePipe stdoutNew (.pipeReader name) (.pipeWriter name)
            cases made with
            | error error =>
                refine (shows_closeAll [stdout.2, stdout.1, input]).bind fun _ => ?_
                rw [second.giveBack fun _ => .rfl]
                exact .value fun _ shows => shows
            | ok stderr =>
                refine .given fun stderrNew => .chosen fun other => ?_
                have third := second.takePipe stderrNew (.pipeReader other) (.pipeWriter other)
                exact shows_collectingOn launcher invocation third

end Spawn

namespace Codon

variable (launcher : Launcher) (binary : Path)

namespace Session

/-! ## Calls -/

theorem stays_needScratch (session : Session) : Stays session.needScratch fun _ => True := by
  intro host _
  rcases needScratch_cases session host with ⟨error, failed⟩ | ⟨place, files, made, found, -⟩
  · rw [Discipline.GovernsAt, failed]
    exact ⟨.refl host, trivial⟩
  · rw [Discipline.GovernsAt, found]
    exact ⟨.refl host, trivial⟩

theorem stays_compile (session : Session) : Stays (session.compile launcher) fun _ => True := by
  unfold compile
  split
  · exact .value trivial
  · refine (stays_needScratch session).bind fun made _ => ?_
    cases made with
    | error error => exact .value trivial
    | ok place =>
        refine .look fun seen _ => ?_
        have collected (invocation : Invocation) :
            Stays (Spawn.collecting launcher invocation) fun _ => True :=
          .of_shows fun _ _ => Spawn.shows_collecting launcher invocation
        refine (collected _).bind (fun started _ => ?_) seen trivial
        cases started with
        | error error => exact .value trivial
        | ok collected =>
            dsimp only
            split
            · split
              · exact (Speaks.writeStream (fun _ => not_false) .stderr _).stays.bind fun _ _ =>
                  .value trivial
              · exact .value trivial
            · exact .value trivial

theorem stays_run (session : Session) (arguments : List String) :
    Stays (session.run launcher arguments) fun _ => True :=
  stillness_letsRun.runSession launcher session arguments

/-- A copy that was made is taken over. -/
theorem stays_takeCopy (copied : Except OsError FileTree) :
    Stays (takeCopy copied) fun _ => True := by
  cases copied with
  | error error => exact .value trivial
  | ok files =>
      have changed : Stays (modify fun host => { host with files }) fun _ => True :=
        .changed fun host => Host.Still.refl host
      exact changed.bind fun _ _ => .value trivial

/-- A number that was opened last is closed again. -/
theorem shows_closeLast {number : Nat} (isFree : files number = none) (file : OpenFile) :
    Ensures (Host.Shows (update files number (some file)) threads) (SystemCall.close number)
      fun _ => Host.Shows files threads := by
  have closed {now : OpenFiles} : Ensures (Host.Shows now threads) (SystemCall.close number)
      fun _ => Host.Shows (update now number none) threads := Ensures.close number
  exact closed.weaken fun _ _ shows => Ensures.closed_again isFree file ▸ shows

theorem shows_copyFile (source target : Path) :
    Ensures (Host.Shows files threads) (copyFile source target) fun _ =>
      Host.Shows files threads := by
  have noted : Stays (modify (·.note (.copied source target))) fun _ => True :=
    .changed fun host => Host.Still.refl host
  refine (Ensures.of_stays noted).bind fun _ => .look fun seen _ => ?_
  split
  · exact .value fun _ shows => shows
  · rename_i place node found
    refine (Ensures.openAs _).bind fun opened => ?_
    cases opened with
    | error error => exact .value fun _ shows => shows
    | ok input =>
        refine .given fun inputFree => .chosen fun opening => ?_
        cases node.isFile with
        | false =>
            dsimp only
            rw [if_neg Bool.false_ne_true]
            refine .pureBind (.look fun now _ => ?_)
            rw [if_neg (not_not.mpr rfl)]
            refine (shows_closeLast inputFree _).bind fun _ => ?_
            exact .of_stays (stays_takeCopy _)
        | true =>
            refine (Ensures.openAs _).bind fun opened => ?_
            cases opened with
            | error error =>
                refine (shows_closeLast inputFree _).bind fun _ => ?_
                exact .value fun _ shows => shows
            | ok output =>
                refine .given fun outputFree => .chosen fun other => .look fun now _ => ?_
                have different : output ≠ input := by
                  rintro rfl
                  simp at outputFree
                dsimp only
                rw [if_pos different]
                refine (shows_closeLast outputFree _).bind fun _ => ?_
                refine (shows_closeLast inputFree _).bind fun _ => ?_
                exact .of_stays (stays_takeCopy _)

theorem stays_writeExecutable (session : Session) (output : Path) (options : LinkOptions) :
    Stays (session.writeExecutable output options) fun _ => True := by
  unfold writeExecutable
  split
  · exact .value trivial
  · split
    · exact .value trivial
    · rename_i artifact _
      have copied : Stays (copyFile artifact output) fun _ => True :=
        .of_shows fun _ _ => shows_copyFile artifact output
      refine copied.bind fun outcome _ => ?_
      cases outcome with
      | error error => exact .value trivial
      | ok done => exact .value trivial

theorem stays_close (session : Session) : Stays session.close fun _ => True := by
  unfold close
  split
  · exact .value trivial
  · apply Stays.of_shows
    intro files threads
    refine (Ensures.openAs _).bind fun opened => ?_
    cases opened with
    | error error => exact .value fun _ shows => shows
    | ok number =>
        refine .given fun isFree => .chosen fun opening => ?_
        have removed (place : Place) :
            Stays (modify fun host => { host with files := host.files.eraseAll place })
              fun _ => True := .changed fun host => Host.Still.refl host
        exact (Ensures.of_stays (removed _)).bind fun _ => shows_closeLast isFree _

theorem stays_perform (session : Session) (call : SessionCall) :
    Stays ((toolchain launcher binary).perform session call) fun _ => True := by
  cases call with
  | create optimisation => exact .value trivial
  | plugin name => exact .loadPlugin session name
  | parse input => exact .parseFile session input
  | compile => exact stays_compile launcher session
  | run arguments libs => exact stays_run launcher session arguments
  | link output options => exact stays_writeExecutable session output options

end Session

/-! ## The toolchain -/

/-- Between its calls a session holds no descriptor, and it leaves none open. -/
theorem tidy : (toolchain launcher binary).Tidy (fun _ _ => False) fun _ => False where
  create _ host := (Host.Still.refl host).changes fun _ isHeld => isHeld.elim
  call session call host _ :=
    (Session.stays_perform launcher binary session call host trivial).1.changes
      fun _ isHeld => isHeld.elim
  close session host _ :=
    (Session.stays_close session host trivial).1.changes fun _ isHeld => isHeld.elim
  streams _ := ⟨not_false, fun _ => not_false⟩

/-- Every call returns. -/
theorem returns : (toolchain launcher binary).Returns where
  create settings host := ⟨⟨_, rfl⟩, ((discreet launcher binary).create settings host trivial).1⟩
  call session call host := by
    obtain ⟨directory, performed⟩ := performs_somewhere launcher binary session call host
    refine ⟨?_, ((discreet launcher binary).call session call host trivial).1⟩
    cases isDue : session.due directory host call with
    | error refusal =>
        rw [performed.refused refusal isDue]
        rcases Session.isMisuse_of_refused isDue with rfl | rfl | rfl
        all_goals rfl
    | ok due =>
        obtain ⟨made, -, outcome⟩ := performed.ventures due isDue
        exact outcome.returns
  close session host := ((discreet launcher binary).close session host trivial).1

end Codon

end CompileDriver
