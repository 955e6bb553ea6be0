import CompileDriver.Analysis.Basic
import CompileDriver.Text.Json

/-!
# Reports of an analysis

An analysis is shown as a sectioned text or as a JSON document.
-/

namespace CompileDriver.Analysis

/-- The JSON document of an analysis. -/
def document (analysis : Analysis) : Json.Document :=
  let { types, operations, needs, estimate, .. } := analysis
  .object
    [("file", .text analysis.file),
      ("path", .text analysis.path),
      ("types", .object
        [("sharetensor", .flag types.sharetensor),
          ("ciphertensor", .flag types.ciphertensor),
          ("mpu", .flag types.mpu),
          ("mpp", .flag types.mpp),
          ("mpa", .flag types.mpa)]),
      ("operations", .object
        [("matmul", .number operations.matmul),
          ("encrypt", .number operations.encrypt),
          ("decrypt", .number operations.decrypt)]),
      ("runtime", .object
        [("needs_mhe", .flag needs.needsMhe),
          ("can_skip_mhe", .flag needs.canSkipMhe),
          ("uses_local", .flag needs.usesLocal)]),
      ("estimate", .object
        [("jit_seconds", .decimal estimate.jit),
          ("mhe_seconds", .decimal estimate.mhe),
          ("mpc_seconds", .decimal estimate.mpc),
          ("ops_seconds", .decimal estimate.operations),
          ("total_seconds", .decimal estimate.total)])]

/-- The JSON text of an analysis. -/
def json (analysis : Analysis) : String :=
  analysis.document.pretty 0

/-- The line between the parts of a report. -/
def rule : String :=
  String.ofList (List.replicate 60 '=')

/-- An answer to a question. -/
def yesNo (value : Bool) : String :=
  if value then "Yes" else "No"

/-- A duration in a report: one place, six columns wide. -/
def seconds (value : Float) : String :=
  Text.padLeft 6 (Decimal.fixed 1 value) ++ "s"

/-- The lines of a report. -/
def reportLines (analysis : Analysis) : List String :=
  let { types, operations, needs, estimate, .. } := analysis
  [rule,
    "STATIC ANALYSIS: " ++ analysis.file,
    rule,
    "",
    "--- Type Usage ---",
    "  Sharetensor (MPC):   " ++ yesNo types.sharetensor,
    "  Ciphertensor (HE):   " ++ yesNo types.ciphertensor,
    "  MPU (Union):         " ++ yesNo types.mpu,
    "  MPP (Partition):     " ++ yesNo types.mpp,
    "  MPA (Aggregate):     " ++ yesNo types.mpa,
    "",
    "--- Operation Patterns ---",
    "  Matrix multiplications (@): " ++ toString operations.matmul,
    "  Encrypt calls:              " ++ toString operations.encrypt,
    "  Decrypt/reveal calls:       " ++ toString operations.decrypt,
    "",
    "--- Runtime Requirements ---",
    "  Requires MHE setup:  " ++ (if needs.needsMhe then "Yes" else "No (MPC only)"),
    "  Can use --skip-mhe:  " ++ yesNo needs.canSkipMhe,
    "  Uses @local:         " ++ yesNo needs.usesLocal,
    "",
    "--- Estimated Runtime ---",
    "  JIT Compilation:     " ++ seconds estimate.jit] ++
  (if needs.needsMhe then ["  MHE Key Setup:       " ++ seconds estimate.mhe] else []) ++
  ["  MPC Network:         " ++ seconds estimate.mpc,
    "  Operations (rough):  " ++ seconds estimate.operations,
    "  --------------------------",
    "  TOTAL:               " ++ seconds estimate.total,
    rule]

/-- The report of an analysis. -/
def report (analysis : Analysis) : String :=
  analysis.reportLines.foldl (fun text line => text ++ line ++ "\n") ""

end CompileDriver.Analysis
