import CompileDriver.OsError
import CompileDriver.Text.Blank

/-!
# Errors of a toolchain

An error says which part of the toolchain failed and carries the message that
the toolchain rendered.  A blank message is replaced by a standard one, so the
text shown to the user is never blank.
-/

namespace CompileDriver

/-- Which part of a toolchain an error comes from. -/
inductive ToolchainError.Kind
  /-- The source could not be parsed or checked. -/
  | parser
  /-- A plugin could not be found or loaded. -/
  | plugin
  /-- The compiled program failed while running. -/
  | runtime
  /-- A file could not be read or written. -/
  | io
  /-- Anything else. -/
  | other
  deriving Repr, DecidableEq

/-- The name of a kind. -/
def ToolchainError.Kind.name : ToolchainError.Kind → String
  | .parser => "parser"
  | .plugin => "plugin"
  | .runtime => "runtime"
  | .io => "io"
  | .other => "other"

/-- An error of a toolchain. -/
structure ToolchainError where
  kind : ToolchainError.Kind
  /-- What the toolchain rendered, possibly nothing. -/
  rendered : String
  deriving Repr, DecidableEq

namespace ToolchainError

/-- What is shown for an error that does not say why. -/
def unknownMessage : String := "unknown compilation error"

/-- The text of an error. -/
def message (error : ToolchainError) : String :=
  if Text.isAllBlank error.rendered then unknownMessage else error.rendered

/-- The error for a failure of the operating system. -/
def ofOsError (error : OsError) : ToolchainError :=
  { kind := .io, rendered := error.message }

/-- The text of an error is never blank. -/
theorem message_not_blank (error : ToolchainError) :
    Text.isAllBlank error.message = false := by
  unfold message
  split
  · decide
  · simp_all

end ToolchainError

end CompileDriver
