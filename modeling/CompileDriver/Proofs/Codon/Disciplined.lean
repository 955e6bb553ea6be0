import CompileDriver.Proofs.Codon.Session
import CompileDriver.Proofs.Driver.Disciplined

/-!
# Sessions within a discipline

Besides running programs, which write to the streams, a session of the compiler collects the
output of programs, copies files, and makes and removes its scratch directory.  A discipline
that lets it work allows all this, so that its calls are within the discipline.

One such discipline is to grow older.
-/

namespace CompileDriver

open Codon (Session)

/-! ## Looks and runs -/

theorem Discipline.Governs.loadPlugin {discipline : Discipline} (session : Session)
    (name : String) : discipline.Governs (session.loadPlugin name) fun _ => True := by
  refine .look fun seen _ => ?_
  split
  · exact .value trivial
  · exact .value trivial

theorem Discipline.Governs.parseFile {discipline : Discipline} (session : Session) (input : Path) :
    discipline.Governs (session.parseFile input) fun _ => True := by
  refine .look fun seen _ => ?_
  split
  · exact .value trivial
  · exact .value trivial

theorem Discipline.LetsRun.runSession {discipline : Discipline} (letsRun : discipline.LetsRun)
    (launcher : Launcher) (session : Session) (arguments : List String) :
    discipline.Governs (session.run launcher arguments) fun _ => True := by
  unfold Session.run
  split
  · exact .value trivial
  · refine .look fun seen needed => ?_
    refine (letsRun.inheriting launcher _).bind (fun started _ => ?_) seen needed
    cases started with
    | error error => exact .value trivial
    | ok status =>
        dsimp only
        split
        · exact .value trivial
        · exact .value trivial

/-! ## Work -/

/-- A discipline that lets sessions of the compiler work, apart from what they and their
programs write to the streams. -/
structure Discipline.LetsWork (discipline : Discipline) : Prop extends
    discipline.LetsCollect where
  copied : ∀ (host : Host) source target,
    discipline.allows host (host.note (.copied source target))
  scratch : ∀ (host : Host) files scratchesMade,
    discipline.allows host { host with files, scratchesMade }

namespace Discipline.LetsWork

variable {discipline : Discipline} (letsWork : discipline.LetsWork)

include letsWork

/-- To change the file tree. -/
theorem changed (change : Host → FileTree) :
    discipline.Governs (modify fun host => { host with files := change host } : Action PUnit)
      fun _ => True :=
  .changed fun host => letsWork.files host _

theorem needScratch (session : Session) :
    discipline.Governs session.needScratch fun _ => True := by
  intro host _
  refine ⟨?_, trivial⟩
  rcases Session.needScratch_cases session host with
    ⟨error, failed⟩ | ⟨place, files, made, found, -⟩
  · rw [failed]
    exact discipline.refl host
  · rw [found]
    exact letsWork.scratch host files made

theorem takeCopy (copied : Except OsError FileTree) :
    discipline.Governs (Session.takeCopy copied) fun _ => True := by
  cases copied with
  | error error => exact .value trivial
  | ok files => exact (letsWork.changed fun _ => files).bind fun _ _ => .value trivial

theorem copyFile (source target : Path) :
    discipline.Governs (Session.copyFile source target) fun _ => True := by
  have noted : discipline.Governs (modify (·.note (.copied source target)) : Action PUnit)
      fun _ => True := .changed fun host => letsWork.copied host source target
  refine noted.bind fun _ _ => .look fun seen needed => ?_
  split
  · exact .value trivial
  · rename_i place node _
    refine (letsWork.openAs (.entry · place)).bind (fun first _ => ?_) seen needed
    cases first with
    | error error => exact .value trivial
    | ok input =>
        have second : discipline.Governs
            (if node.isFile then SystemCall.openAs (.entry · place)
              else pure (.ok input) : Action (Except OsError Nat)) fun _ => True := by
          split
          · exact letsWork.openAs _
          · exact .value trivial
        refine second.bind fun opened _ => ?_
        cases opened with
        | error error => exact (letsWork.close input).bind fun _ _ => .value trivial
        | ok output =>
            refine .look fun now needed => ?_
            have closed (copied : Except OsError FileTree) : discipline.Governs
                (do SystemCall.close input
                    Session.takeCopy copied) fun _ => True :=
              (letsWork.close input).bind fun _ _ => letsWork.takeCopy copied
            dsimp only
            split
            · exact ((letsWork.close output).bind fun _ _ => closed _) now needed
            · exact closed _ now needed

theorem writeExecutable (session : Session) (output : Path) (options : LinkOptions) :
    discipline.Governs (session.writeExecutable output options) fun _ => True := by
  unfold Session.writeExecutable
  split
  · exact .value trivial
  · split
    · exact .value trivial
    · refine (letsWork.copyFile _ output).bind fun copied _ => ?_
      cases copied with
      | error error => exact .value trivial
      | ok done => exact .value trivial

theorem closeSession (session : Session) :
    discipline.Governs session.close fun _ => True := by
  unfold Session.close
  split
  · exact .value trivial
  · rename_i place _
    refine (letsWork.openAs (.entry · place)).bind fun opened _ => ?_
    cases opened with
    | error error => exact .value trivial
    | ok number =>
        exact (letsWork.changed fun host => host.files.eraseAll place).bind fun _ _ =>
          letsWork.close number

/-! ## Calls -/

section

variable (letsRun : discipline.LetsRun) (launcher : Launcher)

include letsRun

theorem compile (session : Session) :
    discipline.Governs (session.compile launcher) fun _ => True := by
  have wrote (bytes : Bytes) : discipline.Governs (Stream.stderr.write bytes) fun _ => True :=
    letsRun.speaks (Speaks.writeStream (fun _ => not_false) .stderr bytes)
  unfold Session.compile
  split
  · exact .value trivial
  · refine (letsWork.needScratch session).bind fun made _ => ?_
    cases made with
    | error error => exact .value trivial
    | ok place =>
        refine .look fun seen needed => ?_
        refine (letsWork.collecting launcher _).bind (fun started _ => ?_) seen needed
        cases started with
        | error error => exact .value trivial
        | ok collected =>
            dsimp only
            split
            · split
              · exact (wrote _).bind fun _ _ => .value trivial
              · exact .value trivial
            · exact .value trivial

/-- The calls of sessions are within every discipline that lets these work and their programs
run. -/
theorem perform (binary : Path) (session : Session) (call : SessionCall) :
    discipline.Governs ((Codon.toolchain launcher binary).perform session call) fun _ => True := by
  cases call with
  | create optimisation => exact .value trivial
  | plugin name => exact .loadPlugin session name
  | parse input => exact .parseFile session input
  | compile => exact letsWork.compile letsRun launcher session
  | run arguments libs => exact letsRun.runSession launcher session arguments
  | link output options => exact letsWork.writeExecutable session output options

end

end Discipline.LetsWork

/-! ## Growing older -/

theorem aging_letsWork : aging.LetsWork where
  openAs file := by
    intro host _
    obtain ⟨refusals, outcome⟩ :=
      SystemCall.acquire_cases (fun host => host.openAs file) host
    have turned (next : Host) : aging.allows next next.endCall :=
      aging_letsServe.steps (Host.steps_endCall next)
    rw [Discipline.GovernsAt, SystemCall.openAs]
    rcases outcome with ⟨error, failed⟩ | ⟨number, next, done, granted⟩
    · rw [failed]
      exact ⟨turned { host with refusals }, trivial⟩
    · rw [granted]
      obtain ⟨-, made⟩ := Host.openAs_ok done
      have opened : aging.allows host next := by
        subst made
        exact ⟨.refl _, List.suffix_refl _⟩
      exact ⟨aging.trans opened (turned next), trivial⟩
  pipe := (aging_letsServe.spares Spares.pipe).weaken fun _ _ => trivial
  close _ := aging_letsServe.spares (Spares.close not_false)
  launched _ _ := ⟨.refl _, List.suffix_refl _⟩
  files _ _ := ⟨.refl _, List.suffix_refl _⟩
  copied _ _ _ := ⟨.refl _, List.suffix_refl _⟩
  scratch _ _ _ := ⟨.refl _, List.suffix_refl _⟩

theorem aging_letsRun : aging.LetsRun where
  anywhere _ := trivial
  utterances utterances := aging_letsServe.steps utterances.steps
  files _ _ := ⟨.refl _, List.suffix_refl _⟩
  numberLimit _ _ := ⟨.refl _, List.suffix_refl _⟩

/-- Hosts grow older while the compiler serves requests. -/
theorem Codon.ages (launcher : Launcher) (binary : Path) :
    aging.LetsPerform (Codon.toolchain launcher binary) where
  toLetsServe := aging_letsServe
  note _ _ := ⟨.refl _, List.suffix_refl _⟩
  create _ := .value trivial
  call session call := aging_letsWork.perform aging_letsRun launcher binary session call
  close session := aging_letsWork.closeSession session

end CompileDriver
