import CompileDriver.Path

/-!
# Settings of a build

Everything a toolchain needs to know to compile one input, and what it needs on
top of that to write an executable.
-/

namespace CompileDriver

/-- How much a toolchain optimises. -/
inductive Optimisation
  /-- Build fast, with debug information. -/
  | debug
  /-- Optimise as much as possible. -/
  | release
  deriving Repr, DecidableEq

namespace Optimisation

/-- The level that a release flag asks for. -/
def ofFlag (release : Bool) : Optimisation :=
  if release then .release else .debug

/-- The name of a level. -/
def name : Optimisation → String
  | .debug => "debug"
  | .release => "release"

/-- Whether the level is that of a release. -/
def isRelease : Optimisation → Bool
  | .debug => false
  | .release => true

end Optimisation

/-- What a toolchain is told about one build. -/
structure Settings where
  /-- The toolchain binary, which also names the linking command. -/
  argv0 : Path
  /-- The source file. -/
  input : Path
  /-- The plugins to load before parsing, by name or path. -/
  plugins : List String := []
  /-- The optimisation passes to leave out. -/
  disabledPasses : List String := []
  /-- Further libraries to link. -/
  libs : List String := []
  /-- Further flags for the linker. -/
  linkerFlags : String := ""
  optimisation : Optimisation := .debug
  /-- Whether the program is compiled to stand on its own. -/
  standalone : Bool := false
  /-- Whether the program is written out as a shared library. -/
  sharedLib : Bool := false
  /-- Whether diagnostics are hidden while compiling. -/
  quiet : Bool := false
  /-- The directory of the standard library. -/
  stdlibPath : Option Path := none
  /-- The directory in which plugins are looked up. -/
  pluginPath : Option Path := none
  deriving Repr, DecidableEq

/-- What writing an executable takes on top of the compiled program. -/
structure LinkOptions where
  /-- The toolchain binary. -/
  argv0 : Path
  /-- Whether a shared library is wanted. -/
  sharedLib : Bool
  libs : List String
  linkerFlags : String
  deriving Repr, DecidableEq

/-- The link options that the settings of a build ask for. -/
def Settings.linkOptions (settings : Settings) : LinkOptions :=
  { argv0 := settings.argv0
    sharedLib := settings.sharedLib
    libs := settings.libs
    linkerFlags := settings.linkerFlags }

end CompileDriver
