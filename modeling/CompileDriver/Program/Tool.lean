import CompileDriver.Program.Tool.File
import CompileDriver.Program.Tool.Text

/-!
# The programs of every system

The programs that can be found on every system, by name.
-/

namespace CompileDriver.Program.Tool

/-- Do nothing, successfully. -/
def succeed : Tool := fun _ =>
  return 0

/-- Do nothing, unsuccessfully. -/
def fail : Tool := fun _ =>
  return 1

/-- Write the path of the current directory. -/
def printDirectory : Tool := fun _ => do
  emitLine (← get).directory.path
  return 0

/-- A length of time in microseconds: a decimal number of seconds, minutes, hours
or days. -/
def timeOf? (text : Bytes) : Option Nat :=
  let chars := Shell.ofBytes text
  let whole := chars.takeWhile Char.isDigit
  let rest := chars.drop whole.length
  let fraction := if rest.head? = some '.' then (rest.drop 1).takeWhile Char.isDigit else []
  let unit := if rest.head? = some '.' then rest.drop (fraction.length + 1) else rest
  let scale? :=
    match unit with
    | [] | ['s'] => some 1
    | ['m'] => some 60
    | ['h'] => some 3600
    | ['d'] => some 86400
    | _ => none
  match scale? with
  | some scale =>
      if whole.isEmpty && fraction.isEmpty then none
      else
        some (scale * (Shell.Arithmetic.ofDigits 10 whole * 1000000 +
          Shell.Arithmetic.ofDigits 10 fraction * 1000000 / Nat.pow 10 fraction.length))
  | none => none

/-- Let time pass. -/
def sleep : Tool := fun arguments =>
  OptionTable.handle {} arguments fun request => do
    if request.operands = [] then return ← misused (Bytes.ofText "missing operand")
    match request.operands.find? fun text => (timeOf? text).isNone with
    | some text => misused (Bytes.ofText "invalid time interval " ++ quoted text)
    | none =>
        modify fun process =>
          { process with clock := (request.operands.filterMap timeOf?).foldl (· + ·) process.clock }
        return 0

/-- The programs by name. -/
def all : List (String × Tool) :=
  [("basename", basename), ("cat", cat), ("chmod", changeMode), ("cp", copy),
    ("dirname", dirname), ("echo", echo), ("false", fail), ("head", head), ("ln", link),
    ("ls", list), ("mkdir", makeDirectory), ("mv", move), ("printenv", printEnvironment),
    ("pwd", printDirectory), ("readlink", readLink), ("rm", remove), ("rmdir", removeDirectory),
    ("seq", seq), ("sleep", sleep), ("sort", sort), ("tail", tail), ("tee", tee), ("touch", touch),
    ("tr", translate), ("true", succeed), ("uniq", unique), ("wc", count), ("yes", yes)]

end CompileDriver.Program.Tool
