import CompileDriver.Analysis.Estimate
import CompileDriver.Analysis.Occurrence
import CompileDriver.FileTree.Lookup

/-!
# Static analysis

The analysis looks at the text of a program only: at the secure types that it
names, at the operations that dominate a run, and at what a run needs because of
them.
-/

namespace CompileDriver

/-- The secure types that a program names. -/
structure TypeUsage where
  sharetensor : Bool
  ciphertensor : Bool
  mpu : Bool
  mpp : Bool
  mpa : Bool
  deriving Repr, DecidableEq

/-- How often a program performs the operations that dominate a run. -/
structure OperationCounts where
  matmul : Nat
  encrypt : Nat
  decrypt : Nat
  deriving Repr, DecidableEq

/-- What a run of a program needs. -/
structure RunNeeds where
  /-- Whether it needs the keys of homomorphic encryption. -/
  needsMhe : Bool
  canSkipMhe : Bool
  /-- Whether it uses the local decorator. -/
  usesLocal : Bool
  deriving Repr, DecidableEq

/-- The analysis of a program. -/
structure Analysis where
  /-- The file name of the program. -/
  file : String
  /-- The resolved path of the program, as far as it can be resolved. -/
  path : String
  types : TypeUsage
  operations : OperationCounts
  needs : RunNeeds
  estimate : Analysis.Estimate

/-- A source that could not be read. -/
structure AnalysisError where
  path : Path
  error : OsError
  deriving Repr, DecidableEq

/-- The text of the error. -/
def AnalysisError.message (failure : AnalysisError) : String :=
  s!"couldn't read `{failure.path.display}`: {failure.error.message}"

namespace Analysis

/-- The secure types that a text names as whole words. -/
def typesOf (text : List Char) : TypeUsage :=
  { sharetensor := occursWhole "Sharetensor".toList text
    ciphertensor := occursWhole "Ciphertensor".toList text
    mpu := occursWhole "MPU".toList text
    mpp := occursWhole "MPP".toList text
    mpa := occursWhole "MPA".toList text }

/-- The operations of a text: operators by their sign, calls by their method. -/
def operationsOf (text : List Char) : OperationCounts :=
  { matmul := text.count '@'
    encrypt := countCalls [".encrypt".toList] text
    decrypt := countCalls [".decrypt".toList, ".reveal".toList] text }

/-- What a run of the program with a text needs. -/
def needsOf (types : TypeUsage) (text : List Char) : RunNeeds :=
  let needsMhe :=
    types.ciphertensor || types.mpu || types.mpp || types.mpa || occurs "mpc.mhe".toList text
  { needsMhe
    canSkipMhe := !needsMhe
    usesLocal := occurs "@local".toList text }

/-- The path of a program as it is reported: resolved where that is
possible. -/
def reportedPath (files : FileTree) (directory : Place) (path : Path) : String :=
  match files.canonical directory path with
  | .ok place => (Place.path place).display
  | .error _ => path.display

/-- The analysis of the program with a path and a text. -/
def ofSource (files : FileTree) (directory : Place) (path : Path) (source : String) : Analysis :=
  let text := source.toList
  let types := typesOf text
  let operations := operationsOf text
  let needs := needsOf types text
  { file := ((Path.fileName path).map Utf8.lossy).getD ""
    path := reportedPath files directory path
    types
    operations
    needs
    estimate := .of types.sharetensor types.ciphertensor needs.needsMhe operations.matmul }

/-- Read and analyse the program at a path. -/
def ofFile (files : FileTree) (directory : Place) (path : Path) :
    Except AnalysisError Analysis :=
  match files.read directory path with
  | .error error => .error { path, error }
  | .ok content =>
      match Utf8.decode? content with
      | none => .error { path, error := .text "stream did not contain valid UTF-8" }
      | some source => .ok (ofSource files directory path source)

end Analysis

end CompileDriver
