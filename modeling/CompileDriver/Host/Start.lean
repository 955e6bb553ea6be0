import CompileDriver.Host.Basic
import CompileDriver.Program.Launch

/-!
# A process at its start

A fresh process has an empty input and its two standard streams open, all of
which are inherited by the programs that it starts.
-/

namespace CompileDriver

/-- The table of a fresh process. -/
def DescriptorTable.standard : DescriptorTable :=
  { slots :=
      [some ⟨.emptyInput, true⟩, some ⟨.initial .stdout, true⟩, some ⟨.initial .stderr, true⟩] }

/-- A fresh process in a directory, with the standard files and the directories
that it needs. -/
def Host.start (directory temporary executableDirectory : Place) : Host :=
  { table := .standard
    files :=
      ((Program.standardFiles.makeDirectories directory).makeDirectories temporary).makeDirectories
        executableDirectory
    directory
    temporary
    executableDirectory }

end CompileDriver
