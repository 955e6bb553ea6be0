/-!
# Estimated durations

A rough estimate of how long a run takes, in seconds, from what a program uses:
a fixed time for compiling it and for connecting the parties, a fixed time for
the keys of homomorphic encryption when these are needed, and a time for every
matrix multiplication that depends on the secure types in use.
-/

namespace CompileDriver.Analysis

/-- The estimated duration of a run and of its parts, in seconds. -/
structure Estimate where
  jit : Float
  mhe : Float
  mpc : Float
  operations : Float
  total : Float

namespace Estimate

/-- Compiling a program. -/
def jitSeconds : Float := 20.0

/-- Setting up the keys for homomorphic encryption. -/
def mheSeconds : Float := 15.0

/-- Connecting the parties. -/
def mpcSeconds : Float := 3.0

/-- A matrix multiplication of secret-shared tensors. -/
def sharedMatmulSeconds : Float := 1000.0 * 0.00003

/-- A matrix multiplication of encrypted tensors. -/
def encryptedMatmulSeconds : Float := 100.0 * 0.033

/-- `value` rounded to a multiple of `1 / scale`, a half away from zero. -/
def roundTo (scale value : Float) : Float :=
  (value * scale).round / scale

/-- The estimate for a program with so many matrix multiplications. -/
def of (shared encrypted needsMhe : Bool) (matmuls : Nat) : Estimate :=
  let count := Float.ofNat matmuls
  let sharedTime := if shared then 0.0 + count * sharedMatmulSeconds else 0.0
  let rough := if encrypted then sharedTime + count * encryptedMatmulSeconds else sharedTime
  let operations := roundTo 1000.0 rough
  let mhe := if needsMhe then mheSeconds else 0.0
  { jit := jitSeconds
    mhe
    mpc := mpcSeconds
    operations
    total := roundTo 10.0 (jitSeconds + mhe + mpcSeconds + operations) }

end Estimate

end CompileDriver.Analysis
