import CompileDriver.Frontend.Install

/-!
# Options of the front end

What a user can choose about compiling and running a program.
-/

namespace CompileDriver

/-- The choices of a user. -/
structure Options where
  /-- The installation of the compiler. -/
  codonPath : Path
  /-- The plugin to load, by name or path. -/
  plugin : String := "sequre"
  /-- The optimisation passes to leave out. -/
  disabledPasses : List String := ["core-pythonic-list-addition-opt"]
  release : Bool := false
  /-- Whether the program is run; otherwise it is only built. -/
  runAfterBuild : Bool := true
  programArguments : List String := []
  libs : List String := []
  linkerFlags : String := ""
  /-- Whether the diagnostics of the compiler are hidden. -/
  quiet : Bool := true
  /-- Where an executable is written; derived from the source by default. -/
  outputPath : Option Path := none
  /-- Whether stale sockets are removed before compiling. -/
  cleanSockets : Bool := true
  deriving Repr, DecidableEq

namespace Options

/-- The options of a user who chooses nothing. -/
def default (host : Host) : Options :=
  { codonPath := Install.defaultRoot host }

/-- The settings of a build of `source`. -/
def settings (options : Options) (host : Host) (install : Install) (source : Path)
    (standalone : Bool) : Settings :=
  { argv0 := install.binary
    input := source
    plugins := [install.resolvePlugin host options.plugin]
    disabledPasses := options.disabledPasses
    libs := options.libs
    linkerFlags := options.linkerFlags
    optimisation := .ofFlag options.release
    standalone
    quiet := options.quiet
    stdlibPath := some install.stdlib
    pluginPath := some (install.searchPath host) }

end Options

end CompileDriver
