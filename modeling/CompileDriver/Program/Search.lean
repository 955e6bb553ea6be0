import CompileDriver.FileTree.Lookup

/-!
# Looking programs up

A program whose name has no slash is looked up in directories, which a text
lists with colons between them.  An empty entry of the list means the current
directory.
-/

namespace CompileDriver.Program

/-- The list of directories that counts where no other one is given. -/
def standardSearchPath : Bytes :=
  Bytes.ofText "/usr/local/sbin:/usr/local/bin:/usr/sbin:/usr/bin:/sbin:/bin"

/-- The paths at which a program can be found: the name itself when it has a
slash, otherwise the name in every directory of the list. -/
def candidates (searchPath : Bytes) (name : Path) : List Path :=
  if name.contains Bytes.slash then [name]
  else (Bytes.splitAt 0x3A searchPath).map fun directory => Path.join directory name

/-- Whether a file that can be executed stands at a path. -/
def isExecutable (files : FileTree) (current : Place) (path : Path) : Bool :=
  match files.entry current path with
  | .ok (_, .file _ executable) => executable
  | _ => false

/-- The path of the program that a name means. -/
def find? (files : FileTree) (current : Place) (searchPath : Bytes) (name : Path) : Option Path :=
  (candidates searchPath name).find? (isExecutable files current)

end CompileDriver.Program
