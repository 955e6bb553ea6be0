import CompileDriver.Proofs.Codon.Frame
import CompileDriver.Proofs.Frontend.Source

/-!
# What requests leave behind

After a request the file tree is as it was before, the scratch directory of its session
included, except for files that the process had open; and a build that succeeds has copied
the artifact of the compiler to its output path.
-/

namespace CompileDriver

open Codon.Session (scratchPlace artifactPath artifactName)

/-! ## Compilers that write only their output -/

/-- The output that a compiler is asked for lies in the scratch directory. -/
theorem Launcher.WritesOnlyOutput.keepsToScratch {launcher : Launcher} {root : Path}
    {temporary : Place}
    (writes : launcher.WritesOnlyOutput ((root.joinText "bin").joinText "codon"))
    (plain : ∀ name ∈ temporary, Name.IsPlain name)
    (text : Bytes.ofText (Path.display temporary.path) = temporary.path) :
    launcher.KeepsToScratch ((root.joinText "bin").joinText "codon") temporary where
  compiler := by
    intro invocation files execution number input isCompiler asks holds launched place
    rcases writes.compiler isCompiler launched place with same | ⟨written, loose, looseToo⟩
    · exact .inl same
    · obtain ⟨options, output, last, target, arguments, found, rfl⟩ := written
      obtain ⟨front, back, asked⟩ := asks
      have named : output =
          Bytes.ofText (Path.display (artifactPath (scratchPlace temporary number) input)) := by
        have same := (List.append_inj' (arguments.symm.trans asked) rfl).2
        simp only [List.cons.injEq] at same
        exact same.2.1
      rw [named, Codon.Session.ofText_display_artifactPath,
        Codon.Session.ofText_display_scratchPlace text] at found
      have absent : Bytes.slash ∉ Bytes.ofText (Utf8.lossy (artifactName input)) :=
        Utf8.slash_not_mem_lossy (Codon.Session.slash_not_mem_artifactName input)
      rcases holds.lookup (Codon.Session.isPlain_scratchPlace plain number) absent found with
        here | isDirectory
      · refine .inr ⟨?_, loose, looseToo⟩
        rw [here]
        exact List.prefix_append _ _
      · rw [loose.not_hasDirectory] at isDirectory
        cases isDirectory
  program := by
    intro invocation files execution number input isProgram launched
    apply writes.program _ launched
    rw [isProgram]
    exact Codon.Session.artifactPath_ne_binary plain number input root

/-- Every program has something to say on the error stream before it ends. -/
def Launcher.telling (launcher : Launcher) (text : Bytes) : Launcher := fun invocation files =>
  (launcher invocation files).map ({ · with output := [⟨.stderr, text, 0⟩] })

/-- What programs say is nothing that they write to files. -/
theorem Launcher.WritesOnlyOutput.telling {launcher : Launcher} {binary : Path}
    (writes : launcher.WritesOnlyOutput binary) (text : Bytes) :
    (launcher.telling text).WritesOnlyOutput binary := by
  have launched {invocation : Invocation} {files : FileTree} {execution : Execution}
      (told : launcher.telling text invocation files = .ok execution) :
      ∃ silent, launcher invocation files = .ok silent ∧ silent.files = execution.files := by
    unfold Launcher.telling at told
    cases started : launcher invocation files with
    | error error =>
        rw [started] at told
        cases told
    | ok silent =>
        rw [started] at told
        cases told
        exact ⟨silent, rfl, rfl⟩
  constructor
  · intro invocation files execution isCompiler told
    obtain ⟨silent, started, same⟩ := launched told
    exact same ▸ writes.compiler isCompiler started
  · intro invocation files execution isProgram told
    obtain ⟨silent, started, same⟩ := launched told
    exact same ▸ writes.program isProgram started

/-- Where nothing is refused, a file can be opened. -/
theorem Host.mayOpen_of_unlimited {host : Host} (refusals : host.refusals = [])
    (numberLimit : host.numberLimit = none) : host.MayOpen := by
  unfold Host.MayOpen
  rw [refusals, numberLimit]
  exact ⟨nofun, rfl⟩

/-- A process whose error stream goes to a file, in a directory that holds one source. -/
def Host.reporting : Host :=
  let host := Host.withSource "prog.py"
  let report := [Bytes.ofText "work", Bytes.ofText "report"]
  { host with
    table :=
      { slots :=
          [some ⟨.emptyInput, true⟩, some ⟨.initial .stdout, true⟩, some ⟨.entry 0 report, true⟩] }
    openings := 1
    files := host.files.insert report (.file [] false) }

namespace Codon

/-- The path of the compiler below. -/
def exampleBinary : Path :=
  Path.joinText (Path.joinText (Bytes.ofText "/codon") "bin") "codon"

/-- A compiler that warns, and writes an empty program to its output. -/
def exampleLauncher : Launcher :=
  (Launcher.compiling exampleBinary).telling (Bytes.ofText "warning\n")

/-- A driver of that compiler. -/
def exampleDriver : Driver Session :=
  { toolchain := toolchain exampleLauncher exampleBinary }

/-- A request for the one source of a process. -/
def exampleSettings : Settings :=
  { argv0 := exampleBinary, input := Bytes.ofText "prog.py" }

/-- That compiler keeps to its scratch directory. -/
theorem exampleLauncher_keepsToScratch :
    exampleLauncher.KeepsToScratch exampleBinary [Bytes.ofText "tmp"] :=
  ((Launcher.compiling_writesOnlyOutput exampleBinary).telling _).keepsToScratch
    (by decide +kernel) (by decide +kernel)

variable {launcher : Launcher} {binary : Path} {base host : Host} {session : Session}
  {scratch : Place}

/-! ## Requests -/

/-- The toolchain of a compiler that keeps to its scratch directory. -/
theorem proceeds (wellFormed : base.files.WellFormed)
    (keeps : launcher.KeepsToScratch binary base.temporary) :
    (toolchain launcher binary).Proceeds (Untouched base) (Fresh binary base)
      (fun session host => ∃ compilation,
        Compiled launcher binary base session host compilation) (Ended base)
      fun output session host => ∃ scratch reached,
        Linked launcher binary base output session host scratch reached where
  lastingStart := Untouched.lasting
  lastingFresh := Fresh.lasting
  lastingCompiled := Compiled.lasting_some
  lastingEnded := Ended.lasting
  lastingLinked output session := fun appends ⟨scratch, reached, linked⟩ =>
    ⟨scratch, reached, Linked.lasting output session scratch reached appends linked⟩
  create settings := .value fun host untouched => ⟨untouched, rfl, rfl⟩
  plugin session name := by
    refine .look fun seen _ => ?_
    split
    · exact Leads.failed fun host fresh => fresh.ended fresh.scratch
    · exact Leads.succeeded fun host fresh => { fresh with }
  parse session input := by
    refine .look fun seen _ => ?_
    split
    · exact Leads.succeeded fun host fresh => { fresh with }
    · exact Leads.failed fun host fresh => fresh.ended fresh.scratch
  compile := leads_compile wellFormed keeps
  run session arguments _ := leads_run keeps session arguments
  link := leads_writeExecutable wellFormed

/-- When that is permitted, closing a session removes its scratch directory. -/
theorem files_close (granted : host.MayOpen) (scratched : session.scratch = some scratch) :
    (session.close host).2.files = host.files.eraseAll scratch := by
  unfold Session.close
  rw [scratched]
  dsimp only
  have rests := rests_openAs (.entry · scratch) host (⟨rfl, rfl, rfl⟩ : host.Rests host)
  obtain ⟨number, opened⟩ := openAs_granted granted (.entry · scratch)
  rcases ended : SystemCall.openAs (.entry · scratch) host with ⟨outcome, reached⟩
  rw [ended] at rests opened
  obtain rfl : outcome = .ok number := opened
  let removed : Host := { reached with files := reached.files.eraseAll scratch }
  have closed : removed.Rests (SystemCall.close number removed).2 :=
    rests_close number removed ⟨rfl, rfl, rfl⟩
  rw [Action.bind_apply, ended]
  exact closed.files.trans (congrArg (·.eraseAll scratch) rests.files)

/-- A session that is given up leaves nothing behind. -/
theorem Ended.closed (ended : Ended base session host) (granted : host.MayOpen) :
    FileTree.Rewrites base.HasOpen base.files (session.close host).2.files := by
  cases scratched : session.scratch with
  | none =>
      have same : session.close host = ((), host) := by
        rw [Session.close, scratched]
        rfl
      rw [same]
      exact ended.without scratched
  | some scratch =>
      rw [files_close granted scratched]
      exact (ended.within scratch scratched).removed

/-- A session that has written out its artifact leaves the copy behind. -/
theorem Linked.closed {output : Path} {reached : Place}
    (linked : Linked launcher binary base output session host scratch reached)
    (granted : host.MayOpen) :
    FileTree.Rewrites (fun place => base.HasOpen place ∨ place = reached) base.files
        (session.close host).2.files ∧
      ∀ place, base.Opens output place → reached = place ∧
        (¬ base.HasOpen place → base.files.IsLoose place →
          HoldsCopy launcher binary base (session.close host).2.files place) := by
  rw [files_close granted linked.scratched]
  refine ⟨linked.files.removed, fun place opens => ?_⟩
  obtain rfl := linked.leads place opens
  refine ⟨rfl, fun closed loose => ?_⟩
  apply (linked.copied opens closed loose).same
  rw [host.files.get?_eraseAll, if_neg fun both => linked.apart opens closed both.1]

/-! ## The file tree after a request -/

/-- A request returns, and when its scratch directory can be removed, then after a run, and
after a build that failed, nothing else than open files has changed.  A build that succeeds
has also written to one place: the one that the output path led to, if it led to one.  A copy
of the artifact is there, unless something else than a file stood there. -/
theorem requests_leave_files {driver : Driver Session} {host : Host}
    (isCodon : driver.toolchain = toolchain launcher binary)
    (wellFormed : host.files.WellFormed)
    (keeps : launcher.KeepsToScratch binary host.temporary) (settings : Settings) :
    (∀ arguments, (driver.leaving.run settings arguments host).2.MayOpen →
      ∃ result, (driver.run settings arguments host).1.1 = .returned result ∧
        FileTree.Rewrites host.HasOpen host.files (driver.run settings arguments host).2.files) ∧
    ∀ output, (driver.leaving.build settings output host).2.MayOpen →
      ∃ result, (driver.build settings output host).1.1 = .returned result ∧
        (result.isSuccess = false →
          FileTree.Rewrites host.HasOpen host.files (driver.build settings output host).2.files) ∧
        (result.isSuccess = true → ∃ reached,
          FileTree.Rewrites (fun place => host.HasOpen place ∨ place = reached) host.files
              (driver.build settings output host).2.files ∧
            ∀ place, host.Opens output place → reached = place ∧
              (¬ host.HasOpen place → host.files.IsLoose place →
                HoldsCopy launcher binary host (driver.build settings output host).2.files
                  place)) := by
  have untouched : Untouched host host := ⟨⟨rfl, rfl, fun _ => .inl⟩, .refl _ _⟩
  have stages := proceeds wellFormed keeps
  rw [← isCodon] at stages
  constructor
  · intro arguments granted
    obtain ⟨result, session, returned, ended, closed⟩ :=
      Driver.run_closes stages settings arguments host untouched
    refine ⟨result, returned, ?_⟩
    rw [closed, isCodon]
    exact ended.closed granted
  · intro output granted
    obtain ⟨result, session, returned, reached, closed⟩ :=
      Driver.build_closes stages settings output host untouched
    refine ⟨result, returned, ?_⟩
    rw [closed, isCodon]
    constructor
    · intro failed
      rw [failed] at reached
      exact reached.closed granted
    · intro succeeded
      rw [if_pos succeeded] at reached
      obtain ⟨scratch, place, linked⟩ := reached
      exact ⟨place, linked.closed granted⟩

/-- A build in an empty directory puts the executable where it should be. -/
theorem requests_leave_files_build :
    let host := Host.withSource "prog.py"
    let output := Bytes.ofText "prog"
    let place := [Bytes.ofText "work", Bytes.ofText "prog"]
    let after := (exampleDriver.build exampleSettings output host).2
    HoldsCopy exampleLauncher exampleBinary host after.files place ∧
      (∀ other, other ≠ place → after.files.get? other = host.files.get? other) ∧
      after.files.get? place = some (.file [] true) := by
  intro host output place after
  have wellFormed : host.files.WellFormed := ⟨by decide +kernel, by decide +kernel⟩
  have granted : (exampleDriver.leaving.build exampleSettings output host).2.MayOpen :=
    Host.mayOpen_of_unlimited (by decide +kernel) (by decide +kernel)
  have built : (exampleDriver.build exampleSettings output host).1.1 =
      .returned (.built output) := by decide +kernel
  have closed (place : Place) : ¬ host.HasOpen place := Host.not_hasOpen_of_standard rfl place
  have leads : (host.files.openForWriting host.directory output).toOption.map Prod.snd =
      some place := by decide +kernel
  have opens : host.Opens output place := by
    unfold Host.Opens
    cases opened : host.files.openForWriting host.directory output with
    | error error =>
        rw [opened] at leads
        cases leads
    | ok target =>
        rw [opened] at leads
        exact ⟨target.1, congrArg Except.ok (Prod.ext rfl (Option.some.inj leads))⟩
  obtain ⟨result, returned, -, succeeded⟩ :=
    (requests_leave_files rfl wellFormed exampleLauncher_keepsToScratch exampleSettings).2 output
      granted
  obtain rfl := Ending.returned.inj (built.symm.trans returned)
  obtain ⟨reached, rewrites, copied⟩ := succeeded rfl
  obtain ⟨rfl, holds⟩ := copied place opens
  refine ⟨holds (closed _) (.of_free (by decide +kernel)), ?_, by decide +kernel⟩
  intro other different
  rcases rewrites other with same | ⟨isOpen | here, -⟩
  · exact same
  · exact absurd isOpen (closed other)
  · exact absurd here different

/-- Not everything that is written goes to the output path, and not every output path holds
what was written to it.  A device holds nothing, and when the error stream of the process is
a file, that file takes the diagnostics. -/
theorem builds_write_to_devices_and_reports :
    (exampleLauncher.KeepsToScratch exampleBinary (Host.withSource "prog.py").temporary ∧
      let output := Bytes.ofText "/dev/null"
      let built := exampleDriver.build exampleSettings output (Host.withSource "prog.py")
      built.1.1 = .returned (.built output) ∧
        built.2.files.entry built.2.directory output =
          .ok ([Bytes.ofText "dev", Bytes.ofText "null"], .nullDevice)) ∧
    exampleLauncher.KeepsToScratch exampleBinary Host.reporting.temporary ∧
      let output := Bytes.ofText "prog"
      let built := exampleDriver.build exampleSettings output Host.reporting
      built.1.1 = .returned (.built output) ∧
        Host.reporting.content (Bytes.ofText "report") = some [] ∧
        built.2.content (Bytes.ofText "report") = some (Bytes.ofText "warning\n") := by
  refine ⟨⟨exampleLauncher_keepsToScratch, ?_⟩, exampleLauncher_keepsToScratch, ?_⟩
  · decide +kernel
  · decide +kernel

end Codon

end CompileDriver
