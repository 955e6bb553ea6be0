import CompileDriver.Proofs.Codon.Scratch
import CompileDriver.Proofs.Codon.Tidy
import CompileDriver.Proofs.Driver.Closing
import CompileDriver.Proofs.FileTree.Scratch

/-!
# What a request leaves on the file system

The compiler writes into the scratch directory of its session, and programs write nothing.
Whatever a session does and wherever it fails, everything outside of its scratch directory
stands as it stood before the request, until a copy of the artifact is written out; and the
scratch directory goes when the session is closed.

Only files that the process itself has open are exempt.  What is written to the standard
streams ends up in them.
-/

namespace CompileDriver

open Codon.Session (scratchPlace artifactPath artifactName)

/-! ## Compilers that keep to their scratch directory -/

/-- The invocation asks a compiler to write to a path. -/
def Invocation.AsksFor (invocation : Invocation) (output : Path) : Prop :=
  ∃ options input, invocation.arguments =
    options ++ [Bytes.ofText "-o", Bytes.ofText (Path.display output), input]

/-- The compiler rewrites only files in the scratch directory that its output lies in, and
the programs in scratch directories leave the file tree alone. -/
structure Launcher.KeepsToScratch (launcher : Launcher) (binary : Path) (temporary : Place) :
    Prop where
  compiler : ∀ {invocation : Invocation} {files : FileTree} {execution : Execution} {number : Nat}
    {input : Path}, invocation.program = binary →
      invocation.AsksFor (artifactPath (scratchPlace temporary number) input) →
      files.HoldsFiles (scratchPlace temporary number) →
      launcher invocation files = .ok execution →
        FileTree.Rewrites (scratchPlace temporary number <+: ·) files execution.files
  program : ∀ {invocation : Invocation} {files : FileTree} {execution : Execution} {number : Nat}
    {input : Path}, invocation.program = artifactPath (scratchPlace temporary number) input →
      launcher invocation files = .ok execution →
        ∀ place, execution.files.get? place = files.get? place

/-! ## The process between its calls -/

namespace Host

/-- The process is where it was, and what it has opened since is at certain places. -/
structure Stays (base : Host) (within : Place → Prop) (host : Host) : Prop where
  directory : host.directory = base.directory
  temporary : host.temporary = base.temporary
  opened : ∀ place, host.HasOpen place → base.HasOpen place ∨ within place

namespace Stays

variable {base before after host : Host} {within : Place → Prop}

theorem appends (stays : Stays base within before) (appends : Appends before after) :
    Stays base within after where
  directory := appends.directory.trans stays.directory
  temporary := appends.temporary.trans stays.temporary
  opened place isOpen := stays.opened place (appends.opened place isOpen)

theorem withFiles (stays : Stays base within host) (files : FileTree) :
    Stays base within { host with files } :=
  ⟨stays.directory, stays.temporary, stays.opened⟩

theorem weaken {more : Place → Prop} (stays : Stays base within host)
    (implies : ∀ place, within place → more place) : Stays base more host where
  directory := stays.directory
  temporary := stays.temporary
  opened place isOpen := (stays.opened place isOpen).imp_right (implies place)

theorem files (stays : Stays base within before) (appends : Appends before after) :
    FileTree.Rewrites (fun place => base.HasOpen place ∨ within place) before.files after.files :=
  appends.files.weaken stays.opened

/-- Only files that were open in the beginning are written to. -/
theorem filesOpen (stays : Stays base (fun _ => False) before) (appends : Appends before after) :
    FileTree.Rewrites base.HasOpen before.files after.files :=
  (stays.files appends).weaken fun _ => (·.resolve_right id)

end Stays

/-- The process is where it was, and the file tree is as it was. -/
structure Rests (base host : Host) : Prop where
  directory : host.directory = base.directory
  temporary : host.temporary = base.temporary
  files : host.files = base.files

theorem Rests.endCall {base host : Host} (rests : Rests base host) : Rests base host.endCall := by
  have ran : ReadersRan (host.note .systemCall) host.endCall :=
    readersRan_takeTurn (host.note .systemCall)
  constructor
  · rw [ran.rest]
    exact rests.directory
  · rw [ran.rest]
    exact rests.temporary
  · rw [ran.files]
    exact rests.files

/-- Whether the next call that opens a file is granted. -/
def MayOpen (host : Host) : Prop :=
  (∀ error rest, host.refusals ≠ some error :: rest) ∧
    host.numberLimit.all (host.table.lowestFree < ·) = true

end Host

/-! ## Opening and closing -/

theorem rests_openAs {base : Host} (file : Nat → OpenFile) :
    Ensures base.Rests (SystemCall.openAs file) fun _ => base.Rests := by
  intro host rests
  have refused (refusals : List (Option OsError)) : base.Rests { host with refusals } :=
    ⟨rests.directory, rests.temporary, rests.files⟩
  obtain ⟨refusals, ⟨error, failed⟩ | ⟨number, next, done, granted⟩⟩ :=
    SystemCall.acquire_cases (·.openAs file) host
  · rw [SystemCall.openAs, failed]
    exact (refused refusals).endCall
  · rw [SystemCall.openAs, granted]
    obtain ⟨-, rfl⟩ := Host.openAs_ok done
    exact Host.Rests.endCall ⟨rests.directory, rests.temporary, rests.files⟩

theorem rests_close {base : Host} (number : Nat) :
    Ensures base.Rests (SystemCall.close number) fun _ => base.Rests :=
  fun _ rests => Host.Rests.endCall ⟨rests.directory, rests.temporary, rests.files⟩

/-- What is granted is opened. -/
theorem openAs_granted {host : Host} (granted : host.MayOpen) (file : Nat → OpenFile) :
    ∃ number, (SystemCall.openAs file host).1 = .ok number := by
  obtain ⟨unrefused, room⟩ := granted
  obtain ⟨refusals, performed⟩ := SystemCall.acquire_unrefused (·.openAs file) unrefused
  have opened : Host.openAs { host with refusals } file =
      .ok (host.table.lowestFree,
        { host with
          refusals
          table := host.table.occupy ⟨file host.openings, false⟩
          openings := host.openings + 1 }) := by
    unfold Host.openAs Host.allocate Host.nextNumber
    simp only [room, if_true]
    rfl
  refine ⟨host.table.lowestFree, ?_⟩
  rw [SystemCall.openAs, performed, SystemCall.perform, Action.bind_apply, Action.get_apply]
  dsimp only
  rw [opened]
  rfl

/-- The process can open a path for writing, at a place where a file is or can be created. -/
def Host.Opens (base : Host) (output : Path) (place : Place) : Prop :=
  ∃ files, base.files.openForWriting base.directory output = .ok (files, place)

/-! ## Stages of a session -/

namespace Codon

/-- A run of the compiler: its scratch directory by number, the source that it was given, the
file tree that it found and what it did. -/
structure Compilation where
  number : Nat
  input : Path
  invocation : Invocation
  found : FileTree
  execution : Execution

namespace Compilation

/-- The scratch directory. -/
def scratch (compilation : Compilation) (base : Host) : Place :=
  scratchPlace base.temporary compilation.number

/-- Where the artifact goes. -/
def artifact (compilation : Compilation) (base : Host) : Path :=
  artifactPath (compilation.scratch base) compilation.input

/-- The compiler was started after a request began on a host, in a new scratch directory, and
it succeeded. -/
structure Succeeds (launcher : Launcher) (binary : Path) (base : Host) (compilation : Compilation) :
    Prop where
  program : compilation.invocation.program = binary
  asks : compilation.invocation.AsksFor (compilation.artifact base)
  found : FileTree.Rewrites base.HasOpen
    (base.files.insert (compilation.scratch base) Node.openDirectory) compilation.found
  launched : launcher compilation.invocation compilation.found = .ok compilation.execution
  success : compilation.execution.status.isSuccess = true

end Compilation

/-- A file tree holds, at a place, a copy of the artifact that the compiler has left. -/
def HoldsCopy (launcher : Launcher) (binary : Path) (base : Host) (files : FileTree)
    (place : Place) : Prop :=
  ∃ compilation : Compilation, compilation.Succeeds launcher binary base ∧
    ∃ left origin content executable,
      FileTree.Rewrites base.HasOpen compilation.execution.files left ∧
        left.entry base.directory (compilation.artifact base) =
            .ok (origin, .file content executable) ∧
          files.get? place = some (.file content executable)

theorem HoldsCopy.same {launcher : Launcher} {binary : Path} {base : Host}
    {before after : FileTree} {place : Place} (holds : HoldsCopy launcher binary base before place)
    (same : after.get? place = before.get? place) :
    HoldsCopy launcher binary base after place := by
  obtain ⟨compilation, succeeds, left, origin, content, executable, known, found, held⟩ := holds
  exact ⟨compilation, succeeds, left, origin, content, executable, known, found, same.trans held⟩

/-- The places in the scratch directory of a session. -/
def Session.Owns (session : Session) (place : Place) : Prop :=
  ∃ scratch, session.scratch = some scratch ∧ scratch <+: place

/-- Before there is a scratch directory, only open files have been written to. -/
structure Untouched (base host : Host) : Prop where
  stays : base.Stays (fun _ => False) host
  files : FileTree.Rewrites base.HasOpen base.files host.files

/-- A session before it has compiled anything. -/
structure Fresh (binary : Path) (base : Host) (session : Session) (host : Host) : Prop
    extends Untouched base host where
  binary : session.binary = binary
  scratch : session.scratch = none

/-- A new scratch directory, in which nothing is open. -/
structure Scratched (base : Host) (scratch : Place) (host : Host) : Prop where
  stays : base.Stays (fun _ => False) host
  number : ∃ number, scratch = scratchPlace base.temporary number
  files : FileTree.HoldsScratch base.HasOpen scratch base.files host.files

/-- A new scratch directory that the compiler has not seen. -/
structure Vacant (base : Host) (scratch : Place) (host : Host) : Prop
    extends Scratched base scratch host where
  vacant : FileTree.Rewrites base.HasOpen (base.files.insert scratch Node.openDirectory) host.files

/-- A scratch directory in which the compiler has run. -/
structure Used (launcher : Launcher) (invocation : Invocation) (base : Host) (scratch : Place)
    (execution : Execution) (host : Host) : Prop extends Scratched base scratch host where
  found : ∃ found, FileTree.Rewrites base.HasOpen (base.files.insert scratch Node.openDirectory)
    found ∧ launcher invocation found = .ok execution
  left : FileTree.Rewrites base.HasOpen execution.files host.files

/-- A session that has compiled: its artifact is as the compiler has left it. -/
structure Compiled (launcher : Launcher) (binary : Path) (base : Host) (session : Session)
    (host : Host) (compilation : Compilation) : Prop
    extends Scratched base (compilation.scratch base) host where
  succeeds : compilation.Succeeds launcher binary base
  scratch : session.scratch = some (compilation.scratch base)
  artifact : session.artifact = some (compilation.artifact base)
  left : FileTree.Rewrites base.HasOpen compilation.execution.files host.files

/-- A session that is given up: only its scratch directory is new. -/
structure Ended (base : Host) (session : Session) (host : Host) : Prop where
  stays : base.Stays session.Owns host
  without : session.scratch = none → FileTree.Rewrites base.HasOpen base.files host.files
  within : ∀ scratch, session.scratch = some scratch →
    FileTree.HoldsScratch base.HasOpen scratch base.files host.files

/-- A session that has written out its artifact: only its scratch directory is new, and the
place that the output path has led to.  The path has led there before, if it led anywhere. -/
structure Linked (launcher : Launcher) (binary : Path) (base : Host) (output : Path)
    (session : Session) (host : Host) (scratch reached : Place) : Prop where
  stays : base.Stays session.Owns host
  scratched : session.scratch = some scratch
  files : FileTree.HoldsScratch (fun place => base.HasOpen place ∨ place = reached) scratch
    base.files host.files
  leads : ∀ place, base.Opens output place → reached = place
  apart : base.Opens output reached → ¬ base.HasOpen reached → ¬ scratch <+: reached
  copied : base.Opens output reached → ¬ base.HasOpen reached → base.files.IsLoose reached →
    HoldsCopy launcher binary base host.files reached

variable {launcher : Launcher} {binary : Path} {base before host : Host} {session : Session}
  {scratch : Place}

theorem Session.owns_of_scratch (scratched : session.scratch = some scratch) {place : Place} :
    session.Owns place ↔ scratch <+: place := by
  constructor
  · rintro ⟨_, same, inside⟩
    rw [scratched] at same
    cases same
    exact inside
  · exact fun inside => ⟨scratch, scratched, inside⟩

/-! ### What survives between the calls -/

theorem Untouched.lasting : Host.Lasting (Untouched base) := by
  intro before after appends untouched
  constructor
  · exact untouched.stays.appends appends
  · exact untouched.files.trans (untouched.stays.filesOpen appends)

theorem Fresh.lasting (session : Session) : Host.Lasting (Fresh binary base session) := by
  intro before after appends fresh
  constructor
  · exact Untouched.lasting appends fresh.toUntouched
  · exact fresh.binary
  · exact fresh.scratch

theorem Scratched.lasting : Host.Lasting (Scratched base scratch) := by
  intro before after appends scratched
  constructor
  · exact scratched.stays.appends appends
  · exact scratched.number
  · apply scratched.files.rewrites
    exact (scratched.stays.filesOpen appends).weaken fun _ => .inl

theorem Vacant.lasting : Host.Lasting (Vacant base scratch) := by
  intro before after appends vacant
  constructor
  · exact Scratched.lasting appends vacant.toScratched
  · exact vacant.vacant.trans (vacant.stays.filesOpen appends)

theorem Used.lasting (invocation : Invocation) (execution : Execution) :
    Host.Lasting (Used launcher invocation base scratch execution) := by
  intro before after appends used
  constructor
  · exact Scratched.lasting appends used.toScratched
  · exact used.found
  · exact used.left.trans (used.stays.filesOpen appends)

theorem Compiled.lasting (session : Session) (compilation : Compilation) :
    Host.Lasting fun host => Compiled launcher binary base session host compilation := by
  intro before after appends compiled
  constructor
  · exact Scratched.lasting appends compiled.toScratched
  · exact compiled.succeeds
  · exact compiled.scratch
  · exact compiled.artifact
  · exact compiled.left.trans (compiled.stays.filesOpen appends)

theorem Compiled.lasting_some (session : Session) : Host.Lasting fun host =>
    ∃ compilation, Compiled launcher binary base session host compilation :=
  fun appends ⟨compilation, compiled⟩ =>
    ⟨compilation, Compiled.lasting session compilation appends compiled⟩

theorem Ended.lasting (session : Session) : Host.Lasting (Ended base session) := by
  intro before after appends ended
  have rewrites := ended.stays.files appends
  constructor
  · exact ended.stays.appends appends
  · intro unscratched
    apply (ended.without unscratched).trans
    apply rewrites.weaken
    rintro place (isOpen | ⟨scratch, scratched, -⟩)
    · exact isOpen
    · rw [unscratched] at scratched
      cases scratched
  · intro scratch scratched
    apply (ended.within scratch scratched).rewrites
    exact rewrites.weaken fun _ => .imp_right (Session.owns_of_scratch scratched).mp

theorem Linked.lasting (output : Path) (session : Session) (scratch reached : Place) :
    Host.Lasting fun host => Linked launcher binary base output session host scratch reached := by
  intro before after appends linked
  have rewrites : FileTree.Rewrites (fun place => base.HasOpen place ∨ scratch <+: place)
      before.files after.files :=
    (linked.stays.files appends).weaken fun _ =>
      .imp_right (Session.owns_of_scratch linked.scratched).mp
  constructor
  · exact linked.stays.appends appends
  · exact linked.scratched
  · exact linked.files.rewrites (rewrites.weaken fun _ known => known.imp_left .inl)
  · exact linked.leads
  · exact linked.apart
  · intro opens closed loose
    apply (linked.copied opens closed loose).same
    rcases rewrites reached with same | ⟨isOpen | inside, -⟩
    · exact same
    · exact absurd isOpen closed
    · exact absurd inside (linked.apart opens closed)

/-! ### Giving up -/

theorem Untouched.ended (untouched : Untouched base host) (unscratched : session.scratch = none) :
    Ended base session host where
  stays := untouched.stays.weaken fun _ => False.elim
  without _ := untouched.files
  within scratch scratched := by
    rw [unscratched] at scratched
    cases scratched

theorem Scratched.ended (scratched : Scratched base scratch host)
    (known : session.scratch = some scratch) : Ended base session host where
  stays := scratched.stays.weaken fun _ => False.elim
  without unscratched := by
    rw [known] at unscratched
    cases unscratched
  within place same := by
    rw [known] at same
    cases same
    exact scratched.files

/-! ### Copying -/

/-- A copy that fails changes nothing, one that succeeds is made in the tree that was there. -/
theorem rests_copyFile (base : Host) (source target : Path) :
    Ensures (· = base) (Session.copyFile source target) fun outcome host =>
      match outcome with
      | .error _ => base.Rests host
      | .ok () => host.directory = base.directory ∧ host.temporary = base.temporary ∧
          base.files.copy base.directory source target = .ok host.files := by
  have noted : Ensures (· = base) (modify (·.note (.copied source target)) : Action PUnit)
      fun _ => base.Rests := by
    rintro _ rfl
    exact ⟨rfl, rfl, rfl⟩
  refine noted.bind fun _ => .look fun seen known => ?_
  have finish (input : Nat) (copied : Except OsError FileTree)
      (same : copied = base.files.copy base.directory source target) :
      Ensures base.Rests
        (do SystemCall.close input
            Session.takeCopy copied) fun outcome host =>
        match outcome with
        | .error _ => base.Rests host
        | .ok () => host.directory = base.directory ∧ host.temporary = base.temporary ∧
            base.files.copy base.directory source target = .ok host.files := by
    refine (rests_close input).bind fun _ => ?_
    cases copied with
    | error error => exact .value fun _ rests => rests
    | ok files => exact fun host rests => ⟨rests.directory, rests.temporary, same.symm⟩
  split
  · exact .value fun _ rests => rests
  · rename_i place node found
    refine (rests_openAs _).bind fun opened => ?_
    cases opened with
    | error error => exact .value fun _ rests => rests
    | ok input =>
        have second : Ensures base.Rests
            (if node.isFile then SystemCall.openAs (.entry · place) else pure (.ok input))
            fun _ => base.Rests := by
          split
          · exact rests_openAs _
          · exact .value fun _ rests => rests
        refine second.bind fun opened => ?_
        cases opened with
        | error error => exact (rests_close input).bind fun _ => .value fun _ rests => rests
        | ok output =>
            refine .look fun now rests => ?_
            have same : now.files.copy seen.directory source target =
                base.files.copy base.directory source target := by
              rw [rests.files, known.directory]
            dsimp only
            split
            · exact (rests_close output).bind fun _ => finish input _ same
            · exact finish input _ same

/-! ### Calls -/

/-- A scratch directory is made at a free place. -/
theorem leads_makeScratch (wellFormed : base.files.WellFormed) :
    Ensures (Untouched base) Session.makeScratch fun outcome host =>
      match outcome with
      | .error _ => Untouched base host
      | .ok place => Vacant base place host := by
  intro host untouched
  unfold Session.makeScratch
  rw [Action.bind_apply, Action.get_apply]
  dsimp only
  cases isDirectory : host.files.hasDirectory host.temporary with
  | false => exact untouched
  | true =>
      have isFree := Session.get?_freeScratch host.files host.temporary host.scratchesMade
      have holds :=
        FileTree.HoldsScratch.makeDirectory wellFormed untouched.files isDirectory isFree
      have sameNumber : scratchPlace host.temporary
          (Session.freeScratch host.files host.temporary host.scratchesMade) ≠ [] := by
        simp [Session.scratchPlace_eq]
      refine ⟨⟨?_, ?_, holds⟩, ?_⟩
      · exact ⟨untouched.stays.directory, untouched.stays.temporary, untouched.stays.opened⟩
      · exact ⟨_, by rw [untouched.stays.temporary]⟩
      · exact untouched.files.insert sameNumber Node.openDirectory

theorem compilerError_failed (diagnostics : Bytes) (status : ExitStatus) :
    ∃ error, Session.compilerError diagnostics status = .failed error := by
  unfold Session.compilerError
  dsimp only
  split
  · exact ⟨_, rfl⟩
  · exact ⟨_, rfl⟩

/-- The compiler is asked to write its artifact. -/
theorem Session.asksFor_compilerInvocation (session : Session) (seen : Host) (settings : Settings)
    (plugins : List String) (input artifact : Path) :
    (session.compilerInvocation seen (buildArguments settings plugins input artifact)).AsksFor
      artifact := by
  simp only [Invocation.AsksFor, Session.compilerInvocation, buildArguments, List.map_append,
    List.map_cons, List.map_nil]
  exact ⟨_, _, rfl⟩

/-- The process takes over a tree in which the compiler has worked in the scratch
directory. -/
theorem Vacant.takeOver {invocation : Invocation} {execution : Execution}
    (keeps : launcher.KeepsToScratch binary base.temporary) (program : invocation.program = binary)
    {input : Path} (asks : invocation.AsksFor (artifactPath scratch input))
    (early : Vacant base scratch before)
    (launched : launcher invocation before.files = .ok execution)
    (vacant : Vacant base scratch host) :
    Used launcher invocation base scratch execution { host with files := execution.files } := by
  obtain ⟨number, rfl⟩ := early.number
  have rewrites := keeps.compiler program asks early.files.toHoldsFiles launched
  constructor
  · constructor
    · exact vacant.stays.withFiles execution.files
    · exact vacant.number
    · exact early.files.rewrites (rewrites.weaken fun _ => .inr)
  · exact ⟨before.files, early.vacant, launched⟩
  · exact .refl _ _

theorem Used.compiled {invocation : Invocation} {execution : Execution} {input : Path}
    (used : Used launcher invocation base scratch execution host)
    (program : invocation.program = binary)
    (asks : invocation.AsksFor (artifactPath scratch input))
    (success : execution.status.isSuccess = true) (scratched : session.scratch = some scratch)
    (artifact : session.artifact = some (artifactPath scratch input)) :
    ∃ compilation, Compiled launcher binary base session host compilation := by
  obtain ⟨number, rfl⟩ := used.number
  obtain ⟨found, rewrites, launched⟩ := used.found
  exact ⟨{ number, input, invocation, found, execution }, used.toScratched,
    ⟨program, asks, rewrites, launched, success⟩, scratched, artifact, used.left⟩

/-- A compilation leads to an artifact in a scratch directory, or it fails. -/
theorem leads_compile (wellFormed : base.files.WellFormed)
    (keeps : launcher.KeepsToScratch binary base.temporary) (session : Session) :
    Leads (Fresh binary base session) (session.compile launcher)
      (fun session host => ∃ compilation,
        Compiled launcher binary base session host compilation) (Ended base) := by
  have compiles (unscratched : session.scratch = none) (program : session.binary = binary) :
      Leads (Untouched base) (session.compile launcher)
        (fun session host => ∃ compilation,
          Compiled launcher binary base session host compilation) (Ended base) := by
    unfold Session.compile
    split
    · exact .failed fun _ untouched => untouched.ended unscratched
    · rename_i input parsed
      rw [Session.needScratch, unscratched]
      refine Ensures.bind (leads_makeScratch wellFormed) fun made => ?_
      cases made with
      | error error => exact Leads.failed fun _ untouched => untouched.ended unscratched
      | ok place =>
          refine .look fun seen _ => ?_
          refine Ensures.bind (Ensures.collectingLeft Vacant.lasting (Used.lasting _)
            fun early launched vacant => early.takeOver keeps program
              (session.asksFor_compilerInvocation seen _ _ input _) launched vacant)
            fun started => ?_
          cases started with
          | error error => exact Leads.failed fun _ vacant => vacant.ended rfl
          | ok collected =>
              refine .chosen fun execution => .given fun same => ?_
              have asks := session.asksFor_compilerInvocation seen session.settings
                session.plugins input (artifactPath place input)
              dsimp only
              split
              · rename_i succeeded
                have success : execution.status.isSuccess = true := same ▸ succeeded
                split
                · refine Ensures.bind (Ensures.of_steps (Used.lasting _ execution)
                    (Speaks.writeStream (fun _ => not_false) .stderr _).spares) fun _ => ?_
                  refine Leads.succeeded fun host used => ?_
                  exact used.compiled program asks success rfl rfl
                · refine Leads.succeeded fun host used => ?_
                  exact used.compiled program asks success rfl rfl
              · obtain ⟨error, failed⟩ :=
                  compilerError_failed collected.output.stderr collected.status
                rw [failed]
                exact Leads.failed fun _ used => used.ended rfl
  exact fun host fresh => compiles fresh.scratch fresh.binary host fresh.toUntouched

/-- A program changes nothing, however it ends. -/
theorem leads_run (keeps : launcher.KeepsToScratch binary base.temporary) (session : Session)
    (arguments : List String) :
    Leads (fun host => ∃ compilation, Compiled launcher binary base session host compilation)
      (session.run launcher arguments) (Ended base) (Ended base) := by
  have given (host : Host) :
      (∃ compilation, Compiled launcher binary base session host compilation) →
        Ended base session host :=
    fun ⟨_, compiled⟩ => compiled.toScratched.ended compiled.scratch
  unfold Session.run
  split
  · exact .failed given
  · rename_i artifact known
    have tolerates (seen : Host) (closed : List Stream) :
        Tolerates (fun host => ∃ compilation,
          Compiled launcher binary base session host compilation) launcher
          { Session.programInvocation seen artifact arguments with closed } := by
      rintro before host execution ⟨compilation, early⟩ launched ⟨_, compiled⟩
      have program := early.artifact
      rw [known] at program
      have same (place : Place) := keeps.program (Option.some.inj program) launched place
      have rewrites (may : Place → Prop) : FileTree.Rewrites may before.files execution.files :=
        fun place => .inl (same place)
      refine ⟨compilation, ⟨?_, ?_, ?_⟩, ?_, ?_, ?_, ?_⟩
      · exact compiled.stays.withFiles execution.files
      · exact early.number
      · exact early.files.rewrites (rewrites _)
      · exact early.succeeds
      · exact early.scratch
      · exact early.artifact
      · exact early.left.trans (rewrites _)
    refine .look fun seen _ => ?_
    refine Ensures.bind (Ensures.inheriting (Compiled.lasting_some session) (tolerates seen))
      fun started => ?_
    cases started with
    | error error => exact Leads.failed given
    | ok status =>
        dsimp only
        split
        · exact Leads.succeeded given
        · exact Leads.failed given

/-! ### Writing out -/

/-- The names on the way to a scratch directory are plain. -/
theorem Scratched.plain (wellFormed : base.files.WellFormed)
    (scratched : Scratched base scratch host) :
    ∀ name ∈ base.temporary, Name.IsPlain name := by
  obtain ⟨number, rfl⟩ := scratched.number
  have entered := scratched.files.entered base.temporary (List.prefix_append _ _)
  have above : ¬ scratchPlace base.temporary number <+: base.temporary := by
    intro inside
    have shorter := inside.length_le
    rw [Session.scratchPlace_eq, List.length_append, List.length_singleton] at shorter
    omega
  apply wellFormed.plain
  apply FileTree.WellFormed.get?_ne_none_of_hasDirectory
  rcases scratched.files.outside base.temporary above with same | ⟨-, -, loose⟩
  · rw [FileTree.hasDirectory, ← same]
    exact entered
  · rw [loose.not_hasDirectory] at entered
    cases entered

/-- The artifact is found in the scratch directory. -/
theorem Compiled.inside {compilation : Compilation} (wellFormed : base.files.WellFormed)
    (compiled : Compiled launcher binary base session host compilation) {current origin : Place}
    {content : Bytes} {executable : Bool}
    (found : host.files.entry current (compilation.artifact base) =
      .ok (origin, .file content executable)) : compilation.scratch base <+: origin := by
  have plain := compiled.plain wellFormed
  have looked := FileTree.lookup_of_entry found
  rw [Compilation.artifact, Compilation.scratch, Session.artifactPath_eq] at looked
  have led := compiled.files.toHoldsFiles.lookup
    (Session.isPlain_scratchPlace plain compilation.number)
    (Session.slash_not_mem_artifactName compilation.input) looked
  rcases led with here | isDirectory
  · have same : origin = compilation.scratch base ++ _ := here
    rw [same]
    exact List.prefix_append _ _
  · have loose := FileTree.IsLoose.of_file (FileTree.get?_of_entry found)
    rw [FileTree.Target.place, loose.not_hasDirectory] at isDirectory
    cases isDirectory

/-- What the output path has led to is where the copy is written. -/
theorem Compiled.leads {compilation : Compilation}
    (compiled : Compiled launcher binary base session host compilation) {output : Path}
    {place : Place} (opens : base.Opens output place) {target : FileTree.Target}
    (found : host.files.lookup host.directory output .create = .ok target) :
    target.place = place := by
  obtain ⟨files, opened⟩ := opens
  obtain ⟨early, looked, rfl, -⟩ := FileTree.openForWriting_ok opened
  obtain ⟨later, lookedToo, same⟩ :=
    FileTree.lookup_alike compiled.files.sameWays looked (.inl rfl)
  rw [← compiled.stays.directory, found] at lookedToo
  cases lookedToo
  exact same

/-- Nothing can be written out to the scratch directory, which has not been there. -/
theorem Compiled.apart {compilation : Compilation}
    (compiled : Compiled launcher binary base session host compilation) {output : Path}
    {place : Place} (opens : base.Opens output place) (closed : ¬ base.HasOpen place)
    (notDirectory : host.files.hasDirectory place = false) :
    ¬ compilation.scratch base <+: place := by
  intro inside
  obtain ⟨files, opened⟩ := opens
  obtain ⟨-, within, -⟩ := FileTree.openForWriting_file opened
  have isFree : base.files.get? place = none := by
    rcases compiled.files.unused place inside with isFree | ⟨isOpen, -⟩
    · exact isFree
    · exact absurd isOpen closed
  have isDirectory := within isFree
  by_cases same : place = compilation.scratch base
  · rw [same, compiled.files.entered _ (List.prefix_refl _)] at notDirectory
    cases notDirectory
  · -- the new name would be in a directory below the scratch directory
    have above : compilation.scratch base <+: place.dropLast := by
      obtain ⟨rest, rfl⟩ := inside
      rcases List.eq_nil_or_concat rest with rfl | ⟨front, last, rfl⟩
      · exact absurd (List.append_nil _) same
      · rw [List.concat_eq_append, ← List.append_assoc, List.dropLast_concat]
        exact List.prefix_append _ _
    rw [(compiled.files.loose_unused above).not_hasDirectory] at isDirectory
    cases isDirectory

/-- A copy of the artifact has been made. -/
theorem Compiled.copied {compilation : Compilation} (wellFormed : base.files.WellFormed)
    (compiled : Compiled launcher binary base session before compilation) {output : Path}
    (opened : host.opened = before.opened) (directory : host.directory = before.directory)
    (temporary : host.temporary = before.temporary)
    (copied : before.files.copy before.directory (compilation.artifact base) output =
      .ok host.files) :
    ∃ reached,
      Linked launcher binary base output session host (compilation.scratch base) reached := by
  obtain ⟨reached, found, rewrites⟩ := FileTree.copy_ok copied
  obtain ⟨origin, content, executable, target, entry, foundToo, notDirectory, held⟩ :=
    FileTree.copy_file copied
  rw [found] at foundToo
  cases foundToo
  refine ⟨reached.place, ?_⟩
  constructor
  · constructor
    · exact directory.trans compiled.stays.directory
    · exact temporary.trans compiled.stays.temporary
    · rintro place ⟨number, opening, isOpen⟩
      have known : host.table.file? = before.table.file? := opened
      rw [known] at isOpen
      exact (compiled.stays.opened place ⟨number, opening, isOpen⟩).imp_right False.elim
  · exact compiled.scratch
  · apply (compiled.files.widen fun _ => .inl).rewrites
    apply rewrites.weaken
    rintro _ rfl
    exact .inl (.inr rfl)
  · exact fun place opens => compiled.leads opens found
  · exact fun opens closed => compiled.apart opens closed notDirectory
  · intro opens closed loose
    have apart := compiled.apart opens closed notDirectory
    have different : origin ≠ reached.place := by
      rintro rfl
      exact apart (compiled.inside wellFormed entry)
    have looseNow : before.files.IsLoose reached.place := by
      rcases compiled.files.outside reached.place apart with same | ⟨-, -, looseNow⟩
      · exact loose.of_same same
      · exact looseNow
    rw [compiled.stays.directory] at entry
    exact ⟨compilation, compiled.succeeds, before.files, origin, content, executable,
      compiled.left, entry, held different looseNow⟩

/-- Writing out fails and changes nothing, or it makes a copy. -/
theorem leads_writeExecutable (wellFormed : base.files.WellFormed) (session : Session)
    (output : Path) (options : LinkOptions) :
    Leads (fun host => ∃ compilation, Compiled launcher binary base session host compilation)
      (session.writeExecutable output options)
      (fun session host => ∃ scratch reached,
        Linked launcher binary base output session host scratch reached)
      (Ended base) := by
  rintro before ⟨compilation, compiled⟩
  have unchanged {host : Host} (opened : host.opened = before.opened) (rests : before.Rests host) :
      Ended base session host := by
    have stays : base.Stays (fun _ => False) host := by
      refine ⟨rests.directory.trans compiled.stays.directory,
        rests.temporary.trans compiled.stays.temporary, ?_⟩
      rintro place ⟨number, opening, isOpen⟩
      have known : host.table.file? = before.table.file? := opened
      rw [known] at isOpen
      exact compiled.stays.opened place ⟨number, opening, isOpen⟩
    have scratched : Scratched base (compilation.scratch base) host :=
      ⟨stays, compiled.number, rests.files ▸ compiled.files⟩
    exact scratched.ended compiled.scratch
  have given : Ended base session before := unchanged rfl ⟨rfl, rfl, rfl⟩
  unfold Session.writeExecutable
  split
  · exact given
  · rw [compiled.artifact]
    dsimp only
    have made := rests_copyFile before (compilation.artifact base) output before rfl
    have opened := (Session.shows_copyFile (compilation.artifact base) output before
      ⟨rfl, List.Subset.refl _⟩).files
    rw [Action.bind_apply]
    rcases ended : Session.copyFile (compilation.artifact base) output before with
      ⟨error | done, host⟩
    · rw [ended] at made opened
      exact unchanged opened made
    · rw [ended] at made opened
      obtain ⟨directory, temporary, copied⟩ := made
      exact ⟨_, compiled.copied wellFormed opened directory temporary copied⟩

end Codon

end CompileDriver
