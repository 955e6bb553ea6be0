import CompileDriver.Host.Basic

/-!
# Installations

Where the compiler, its standard library and its plugins are.  A full
installation keeps its libraries under `lib/codon`, a packaged one has them at
its root.
-/

namespace CompileDriver

/-- The layout of an installation. -/
structure Install where
  /-- The directory that the installation was found at. -/
  root : Path
  /-- The compiler binary. -/
  binary : Path
  /-- The directory of the standard library. -/
  stdlib : Path
  /-- The directory of the plugins. -/
  plugins : Path
  deriving Repr, DecidableEq

namespace Install

/-- The directory that keeps the libraries of a full installation. -/
def nestedLibraries (root : Path) : Path :=
  (root.joinText "lib").joinText "codon"

/-- The layout of the installation at `root`. -/
def resolve (host : Host) (root : Path) : Install :=
  let libraries :=
    if host.files.isDirectory host.directory (nestedLibraries root) then nestedLibraries root
    else root
  { root
    binary := (root.joinText "bin").joinText "codon"
    stdlib := libraries.joinText "stdlib"
    plugins := libraries.joinText "plugins" }

/-- The directory in which plugins are looked up: the configured one, else that
of the installation. -/
def searchPath (install : Install) (host : Host) : Path :=
  host.environment.pluginPath.getD install.plugins

/-- A plugin that is named by a text: its directory below `plugins`, when there
is a manifest in it, else the text itself. -/
def resolvePluginIn (host : Host) (plugins : Path) (plugin : String) : String :=
  let candidate := plugins.joinText plugin
  if host.files.exists? host.directory (candidate.joinText "plugin.toml") then candidate.display
  else plugin

/-- A plugin of the installation. -/
def resolvePlugin (install : Install) (host : Host) (plugin : String) : String :=
  resolvePluginIn host install.plugins plugin

/-- Where the installation is expected: at the configured path, next to the
running executable when there is one, else below the current directory. -/
def defaultRoot (host : Host) : Path :=
  match host.environment.codonPath with
  | some path => path
  | none =>
      let bundled := host.executableDirectory.path.joinText "lib/codon"
      if host.files.exists? host.directory bundled then bundled
      else Bytes.ofText "codon/install"

end Install

end CompileDriver
