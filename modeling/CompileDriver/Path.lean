import CompileDriver.Text.Utf8

/-!
# Paths

A path is a byte string whose segments are separated by slashes.  The file
name of a path is its last segment, where trailing slashes and trailing `.`
segments do not count; the empty path, the root and paths that end in `..` have
no file name.  A file name splits at its last dot into a stem and an extension,
unless nothing stands before that dot.

The functions here look at the bytes only; what a path denotes is a matter of
the file tree.
-/

namespace CompileDriver

/-- The bytes of a path. -/
abbrev Path := Bytes

namespace Path

open Bytes (slash dot)

/-- Whether the path starts at the root. -/
def isAbsolute (path : Path) : Bool :=
  path.head? == some slash

/-- The text of a path, lossily decoded. -/
def display (path : Path) : String :=
  Utf8.lossy path

/-- A reversed path without the slashes and the `.` segments at its end. -/
def dropInert : Bytes → Bytes
  | [] => []
  | c :: rest =>
      if c = slash then dropInert rest
      else if c = dot then
        match rest with
        | [] => []
        | d :: _ => if d = slash then dropInert rest else c :: rest
      else c :: rest

/-- A path cut after its file name and split before it: what stands before the
name, and the name. -/
def splitFileName (path : Path) : Option (Bytes × Bytes) :=
  let reversed := dropInert path.reverse
  let name := (reversed.takeWhile (· != slash)).reverse
  if name = [] ∨ name = [dot, dot] then none
  else some ((reversed.dropWhile (· != slash)).reverse, name)

/-- The last segment of a path. -/
def fileName (path : Path) : Option Bytes :=
  (splitFileName path).map Prod.snd

/-- A file name split at its last dot: the stem, and the extension when there
is one.  A dot at the very start does not separate an extension. -/
def splitExtension (name : Bytes) : Bytes × Option Bytes :=
  let reversed := name.reverse
  match reversed.dropWhile (· != dot) with
  | [] => (name, none)
  | _ :: [] => (name, none)
  | _ :: stem => (stem.reverse, some (reversed.takeWhile (· != dot)).reverse)

/-- The file name without its extension. -/
def fileStem (path : Path) : Option Bytes :=
  (fileName path).map fun name => (splitExtension name).1

/-- `path` taken relative to `base`.  An absolute path stands for itself; to an
empty one a trailing slash is owed. -/
def join (base path : Path) : Path :=
  if isAbsolute path then path
  else if base = [] ∨ base.getLast? = some slash then base ++ path
  else base ++ slash :: path

/-- `base` followed by the segments of a text. -/
def joinText (base : Path) (text : String) : Path :=
  join base (Bytes.ofText text)

/-- The extensions of source files. -/
def sourceExtensions : List Bytes :=
  ["codon", "py", "seq"].map Bytes.ofText

/-- The executable that is written for a source when nothing else is asked
for: the path cut directly after the stem of its file name when it has one of
the source extensions, otherwise the path itself. -/
def defaultOutput (source : Path) : Path :=
  match splitFileName source with
  | none => source
  | some (before, name) =>
      match splitExtension name with
      | (stem, some ext) => if ext ∈ sourceExtensions then before ++ stem else source
      | (_, none) => source

end Path

end CompileDriver
