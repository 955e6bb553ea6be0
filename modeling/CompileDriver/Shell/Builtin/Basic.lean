import CompileDriver.Shell.Condition
import CompileDriver.Shell.Expansion
import CompileDriver.Shell.Printing

/-!
# Commands of the shell itself

The commands that a shell performs itself, apart from those that run other
commands.  Each takes its arguments and has a status; it may also fail with a
complaint, which counts as status 2.  A failure of a special command ends the
shell.  This module holds what they share, and the commands that print and
examine.
-/

namespace CompileDriver.Shell

/-- A command that the shell performs itself, while it goes on. -/
abbrev Performing := ExceptT String (StateM State)

/-- A command that the shell performs itself: its status, given its arguments. -/
abbrev Builtin := List Bytes → Performing Nat

/-- An argument as text. -/
def textOf (argument : Bytes) : String :=
  Utf8.lossy argument

/-- The words of an error that programs use. -/
def reason : OsError → String
  | .code number => OsError.describe number
  | .text message => message

namespace Builtin

/-! ## Arguments and output -/

/-- A number without a sign. -/
def natural (argument : Bytes) : Performing Nat := do
  let digits := ofBytes argument
  let value := Arithmetic.ofDigits 10 digits
  if digits.isEmpty || !digits.all Char.isDigit || value ≥ 0x80000000 then
    throw ("Illegal number: " ++ textOf argument)
  return value

/-- The letters of the options in front of arguments, and the other arguments.
Only some letters are allowed. -/
def options (allowed : List Char) : List Bytes → Performing (List Char × List Bytes)
  | [] => return ([], [])
  | argument :: rest => do
      match ofBytes argument with
      | ['-', '-'] => return ([], rest)
      | '-' :: letter :: letters =>
          match (letter :: letters).find? (!allowed.contains ·) with
          | some other => throw ("Illegal option -" ++ other.toString)
          | none =>
              let (more, rest) ← options allowed rest
              return (letter :: letters ++ more, rest)
      | _ => return ([], argument :: rest)

/-- Write to the standard output in the name of a command. -/
def emit (name : String) (bytes : Bytes) : Performing Nat := do
  if bytes = [] then return 0
  let (state, isWritten) := (← get).writeTo 1 bytes
  if isWritten then
    set state
    return 0
  else
    modify (·.complain (Bytes.ofText (name ++ ": " ++ name ++ ": I/O error")))
    return 1

/-- Write a line to the standard output in the name of a command. -/
def emitLine (name : String) (bytes : Bytes) : Performing Nat :=
  emit name (bytes ++ [Bytes.newline])

/-- Write the arguments. -/
def echo : Builtin := fun arguments =>
  emit "echo" (echoText arguments)

/-- Write a format filled with the arguments. -/
def printf : Builtin := fun arguments => do
  match (← options [] arguments).2 with
  | [] => throw "usage: printf format [arg ...]"
  | format :: rest =>
      let filling := fillFormat format rest
      for complaint in filling.complaints do
        modify (·.complain (Bytes.ofText ("printf: " ++ complaint)))
      let status ← emit "printf" (toBytes filling.written.reverse)
      return if status ≠ 0 then status else filling.status

/-- Examine a condition. -/
def test : Builtin := fun arguments => do
  let state ← get
  match Condition.holds { files := state.files, directory := state.directory } arguments with
  | .error message => throw message
  | .ok outcome => return if outcome then 0 else 1

/-- Examine a condition between brackets. -/
def bracket : Builtin := fun arguments => do
  if arguments.getLast? = some (Bytes.ofText "]") then test arguments.dropLast
  else throw "missing ]"

/-- Do nothing, successfully. -/
def succeed : Builtin := fun _ =>
  return 0

/-- Do nothing, unsuccessfully. -/
def fail : Builtin := fun _ =>
  return 1

end Builtin

end CompileDriver.Shell
