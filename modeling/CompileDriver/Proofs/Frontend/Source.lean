import CompileDriver.Frontend.Basic
import CompileDriver.Host.Start
import CompileDriver.Proofs.Codon.Sparing
import CompileDriver.Proofs.FileTree.StaleSockets

/-!
# Requests and their source

A request reads its source and writes elsewhere, but it also sweeps stale sockets from
the current directory, and a build derives the name of its executable from the source.
These are the only ways to lose the source: one that is no stale socket, and to which the
path of the executable does not lead, is the same file after the request.
-/

namespace CompileDriver

/-- What a compiler leaves behind that writes an empty program to its output. -/
def Invocation.compiled (invocation : Invocation) (files : FileTree) : Except OsError FileTree :=
  match invocation.arguments.reverse with
  | _ :: output :: option :: _ =>
      if option = Bytes.ofText "-o" then files.write invocation.directory output [] true
      else .ok files
  | _ => .ok files

theorem Invocation.rewrites_compiled {invocation : Invocation} {files after : FileTree}
    (left : invocation.compiled files = .ok after) :
    FileTree.Rewrites (invocation.WritesTo files) files after := by
  unfold Invocation.compiled at left
  split at left
  · rename_i input output option front arguments
    split at left
    · rename_i isOutput
      obtain ⟨target, found, rewrites⟩ := FileTree.write_ok left
      apply rewrites.weaken
      rintro _ rfl
      refine ⟨front.reverse, output, input, target, ?_, found, rfl⟩
      rw [← isOutput, ← invocation.arguments.reverse_reverse, arguments]
      simp
    · cases left
      exact .refl _ _
  · cases left
    exact .refl _ _

/-- A compiler that writes an empty program to its output, and programs that do
nothing. -/
def Launcher.compiling (binary : Path) : Launcher := fun invocation files =>
  let left := if invocation.program = binary then invocation.compiled files else .ok files
  left.map fun files => { output := [], files, status := .exited 0 }

/-- The compiler above writes only to its output. -/
theorem Launcher.compiling_writesOnlyOutput (binary : Path) :
    (Launcher.compiling binary).WritesOnlyOutput binary where
  compiler := by
    intro invocation files execution isCompiler started
    unfold Launcher.compiling at started
    rw [if_pos isCompiler] at started
    cases left : invocation.compiled files with
    | error error =>
        rw [left] at started
        cases started
    | ok after =>
        rw [left] at started
        cases started
        exact invocation.rewrites_compiled left
  program := by
    intro invocation files execution isProgram started place
    unfold Launcher.compiling at started
    rw [if_neg isProgram] at started
    cases started
    rfl

/-- A process in a directory that holds one source. -/
def Host.withSource (name : String) : Host :=
  let host := Host.start [Bytes.ofText "work"] [Bytes.ofText "tmp"] []
  let source := [Bytes.ofText "work", Bytes.ofText name]
  { host with files := host.files.insert source (.file (Bytes.ofText "print(1)\n") false) }

/-- The content of the file at a path, when there is one. -/
def Host.content (host : Host) (path : Path) : Option Bytes :=
  (host.files.read host.directory path).toOption

namespace Frontend

/-- What a request for the one source of a process leaves behind, with the compiler
above. -/
def afterRequest (name : String) (runAfterBuild : Bool) : Host :=
  let host := Host.withSource name
  let options : Options := { codonPath := Bytes.ofText "/codon", runAfterBuild }
  let frontend := codon (.compiling (Bytes.ofText "/codon/bin/codon")) host options
  (frontend.compileAndMaybeRun (Bytes.ofText name) host).2

/-! ## Sources that survive -/

section

variable {base : Host} {place : Place} {launcher : Launcher} {made : Host} {options : Options}

theorem lasting_beforeSession :
    Host.Lasting (Host.Sparing base place (FileTree.AtWork base.files place none)) :=
  Host.Sparing.lasting fun rewrites known => known.rewrites rewrites

theorem sparing_self (closed : ¬ base.HasOpen place) :
    Host.Sparing base place (FileTree.AtWork base.files place none) base :=
  ⟨rfl, rfl, closed, .of_rewrites (.refl _ _)⟩

/-- A sweep spares what is no stale socket. -/
theorem ensures_sweepFrom (wellFormed : base.files.WellFormed) (closed : ¬ base.HasOpen place)
    {path : Path} (spared : place ∉ base.files.staleSockets base.directory path) :
    Ensures (· = base) (sweepFrom path) fun _ =>
      Host.Sparing base place (FileTree.AtWork base.files place none) := by
  refine .look fun seen same => ?_
  subst same
  have swept : Ensures (· = seen)
      (set { seen with files := (seen.files.sweep seen.directory path).tree }) fun _ =>
        Host.Sparing seen place (FileTree.AtWork seen.files place none) := by
    rintro _ rfl
    refine ⟨rfl, rfl, closed, .of_rewrites ?_⟩
    apply (FileTree.rewrites_sweep wellFormed _ path).weaken
    rintro _ isStale rfl
    exact spared isStale
  refine swept.bind fun _ => ?_
  exact (Ensures.of_steps lasting_beforeSession (.each fun _ _ =>
    (Speaks.debug (fun _ => not_false) _).spares)).bind fun _ => .value fun _ sparing => sparing

theorem ensures_sweepSockets (wellFormed : base.files.WellFormed) (closed : ¬ base.HasOpen place)
    (spared : place ∉ base.files.staleSockets base.directory base.directory.path) :
    Ensures (· = base) sweepSockets fun _ =>
      Host.Sparing base place (FileTree.AtWork base.files place none) := by
  refine .look fun seen same => ?_
  subst same
  by_cases isDirectory : seen.files.hasDirectory seen.directory = true
  · rw [Host.currentDirectory, if_pos isDirectory]
    refine (ensures_sweepFrom wellFormed closed spared).bind fun removed => ?_
    dsimp only
    split
    · exact (Ensures.of_steps lasting_beforeSession
        (Speaks.debug (fun _ => not_false) _).spares).bind fun _ => .value fun _ sparing => sparing
    · exact .value fun _ sparing => sparing
  · rw [Host.currentDirectory, if_neg isDirectory]
    rintro _ rfl
    exact sparing_self closed

/-- The calls of a request spare a source, when its executable is written somewhere else. -/
theorem ensures_request (supplies : base.Supplies place)
    (writes : launcher.WritesOnlyOutput (codon launcher made options).install.binary)
    (source : Path)
    (elsewhere : options.runAfterBuild = false →
      base.LeadsElsewhere place ((codon launcher made options).outputFor source)) :
    Ensures (Host.Sparing base place (FileTree.AtWork base.files place none))
      ((codon launcher made options).request source) fun _ =>
        Host.Sparing base place (FileTree.KeepsSource base.files place) := by
  let driver := (codon launcher made options).driver
  have maintains : driver.toolchain.Maintains (SessionCall.Spares base place)
      (Host.Sparing base place (FileTree.AtWork base.files place none))
      (Codon.Session.AtWork base place (codon launcher made options).install.binary)
      (Host.Sparing base place (FileTree.KeepsSource base.files place)) :=
    Codon.maintains supplies writes rfl
  refine .look fun seen _ => ?_
  split
  · have runs := Driver.maintains_run maintains
      (SessionCall.spares_of_mem_runCalls ((codon launcher made options).settings seen source false)
        options.programArguments)
    exact runs.bind fun _ => .value fun _ finished => finished
  · rename_i builds
    have leads := elsewhere (Bool.eq_false_iff.mpr builds)
    have builds := Driver.maintains_build maintains
      (SessionCall.spares_of_mem_buildCalls
        ((codon launcher made options).settings seen source true) leads)
    exact builds.bind fun _ => .value fun _ finished => finished

/-- A request spares its source, when a sweep does not take it for a stale socket and its
executable is written somewhere else. -/
theorem ensures_compileAndMaybeRun (supplies : base.Supplies place)
    (writes : launcher.WritesOnlyOutput (codon launcher made options).install.binary)
    (source : Path)
    (closed : ¬ base.HasOpen place)
    (spared : options.cleanSockets = true →
      place ∉ base.files.staleSockets base.directory base.directory.path)
    (elsewhere : options.runAfterBuild = false →
      base.LeadsElsewhere place ((codon launcher made options).outputFor source)) :
    Ensures (· = base) ((codon launcher made options).compileAndMaybeRun source) fun _ =>
      Host.Sparing base place (FileTree.KeepsSource base.files place) := by
  have requested := ensures_request supplies writes source elsewhere
  have unstarted (host : Host)
      (sparing : Host.Sparing base place (FileTree.AtWork base.files place none) host) :
      Host.Sparing base place (FileTree.KeepsSource base.files place) host :=
    sparing.weaken fun _ atWork => atWork.toKeepsSource
  refine .look fun seen same => ?_
  subst same
  split
  · rintro _ rfl
    exact unstarted _ (sparing_self closed)
  · split
    · rename_i cleans
      refine (ensures_sweepSockets supplies.wellFormed closed (spared cleans)).bind
        fun outcome => ?_
      cases outcome with
      | error error => exact .value unstarted
      | ok swept => exact requested
    · rintro _ rfl
      exact requested _ (sparing_self closed)

/-- The file at the path of a source is still there after a request, with the content that it
had, however the request ends. -/
theorem source_survives {host : Host} {source : Path} {content : Bytes} {executable : Bool}
    (writes : launcher.WritesOnlyOutput (codon launcher made options).install.binary)
    (wellFormed : host.files.WellFormed)
    (text : Bytes.ofText (Path.display host.temporary.path) = host.temporary.path)
    (found : host.files.entry host.directory source = .ok (place, .file content executable))
    (closed : ¬ host.HasOpen place)
    (spared : options.cleanSockets = true →
      place ∉ host.files.staleSockets host.directory host.directory.path)
    (elsewhere : options.runAfterBuild = false →
      host.LeadsElsewhere place ((codon launcher made options).outputFor source)) :
    ((codon launcher made options).compileAndMaybeRun source host).2.files.entry host.directory
      source = .ok (place, .file content executable) := by
  have supplies : host.Supplies place :=
    ⟨wellFormed, text, content, executable, FileTree.get?_of_entry found⟩
  have finished :=
    ensures_compileAndMaybeRun supplies writes source closed spared elsewhere host rfl
  exact finished.files.entry found

end

/-- A build leaves the source alone and writes the executable beside it. -/
theorem source_survives_build :
    (afterRequest "prog.py" false).files.entry [Bytes.ofText "work"] (Bytes.ofText "prog.py") =
        .ok
          ([Bytes.ofText "work", Bytes.ofText "prog.py"],
            .file (Bytes.ofText "print(1)\n") false) ∧
      (afterRequest "prog.py" false).content (Bytes.ofText "prog") = some [] := by
  constructor
  · apply source_survives
    · exact Launcher.compiling_writesOnlyOutput _
    · exact ⟨by decide +kernel, by decide +kernel⟩
    · decide +kernel
    · decide +kernel
    · exact Host.not_hasOpen_of_standard rfl _
    · decide +kernel
    · decide +kernel
  · decide +kernel

/-- Requests can destroy their source.  A source that is named like a stale socket is swept
away before it is compiled, and an executable is written over a source without an
extension. -/
theorem requests_destroy_sources :
    ((Host.withSource "sock.py").content (Bytes.ofText "sock.py") =
        some (Bytes.ofText "print(1)\n") ∧
      (afterRequest "sock.py" true).content (Bytes.ofText "sock.py") = none) ∧
    (Host.withSource "prog").content (Bytes.ofText "prog") = some (Bytes.ofText "print(1)\n") ∧
      (afterRequest "prog" false).content (Bytes.ofText "prog") = some [] := by
  decide +kernel

end Frontend

end CompileDriver
