import CompileDriver.Crash
import CompileDriver.Toolchain.Call
import CompileDriver.Toolchain.Error

/-!
# Toolchains

A toolchain creates a session for every build and performs the calls on it.  A
call succeeds, fails with an error or panics; whatever it writes goes through
the standard streams of the process.  The driver never looks inside a session.
-/

namespace CompileDriver

/-- How a call on a session ended. -/
inductive CallEnd
  | succeeded
  | failed (error : ToolchainError)
  | panicked (panic : Panic)
  deriving Repr, DecidableEq

/-- A compiler toolchain with sessions of type `σ`. -/
structure Toolchain (σ : Type) where
  /-- The version of the compiler. -/
  version : Action String
  /-- A fresh session for a build. -/
  createSession : Settings → Action (Except Panic σ)
  /-- Load a plugin, by name or path. -/
  loadPlugin : σ → String → Action (CallEnd × σ)
  /-- Parse the entry point of the program. -/
  parseFile : σ → Path → Action (CallEnd × σ)
  /-- Compile everything that was parsed. -/
  compile : σ → Action (CallEnd × σ)
  /-- Run the compiled program with its arguments, of which the first one names
  the program, and with libraries. -/
  run : σ → List String → List String → Action (CallEnd × σ)
  /-- Write the compiled program to a path. -/
  writeExecutable : σ → Path → LinkOptions → Action (CallEnd × σ)
  /-- Give up what the session holds. -/
  close : σ → Action Unit

end CompileDriver
