import CompileDriver.Toolchain.Settings

/-!
# The command line of a build

How a build is described to the `codon` compiler: a command, the optimisation
flag, the options for plugins, passes and libraries with one value each, and
finally the artifact to write and the source to read.
-/

namespace CompileDriver.Codon

/-- The flag of an optimisation level. -/
def optimisationFlag : Optimisation → String
  | .debug => "-debug"
  | .release => "-release"

/-- An option with each of several values. -/
def optionValues (option : String) (values : List String) : List String :=
  values.flatMap fun value => [option, value]

/-- The arguments of the build that writes the program of `input` to
`artifact`. -/
def buildArguments (settings : Settings) (plugins : List String) (input artifact : Path) :
    List String :=
  ["build", optimisationFlag settings.optimisation] ++
    optionValues "-plugin" plugins ++
    optionValues "-disable-opt" settings.disabledPasses ++
    optionValues "-l" settings.libs ++
    (if settings.linkerFlags.isEmpty then [] else ["-linker-flags", settings.linkerFlags]) ++
    (if settings.sharedLib then ["-lib"] else []) ++
    ["-o", artifact.display, input.display]

end CompileDriver.Codon
