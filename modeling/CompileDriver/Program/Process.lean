import CompileDriver.Program.Execution
import CompileDriver.Text.Utf8

/-!
# Programs that run by themselves

A program takes its arguments, reads its input, writes to its streams, changes
files and ends with a status.  This module has the state of such a program while
it runs, and what programs have in common: options, complaints, and the work on
operands one by one.
-/

namespace CompileDriver.Program

/-- The state of a program while it runs. -/
structure Process where
  /-- The name that the program is told to have. -/
  name : Bytes
  environment : List (Bytes × Bytes) := []
  files : FileTree
  directory : Place
  input : Bytes := []
  closed : List Stream := []
  /-- What has been written, the last write first. -/
  output : List Written := []
  /-- Whether something could not be written to the standard output. -/
  lost : Bool := false
  /-- The time since the start, in microseconds. -/
  clock : Nat := 0

/-- A step of a program. -/
abbrev Step := StateM Process

/-- A program: its status, given its arguments. -/
abbrev Tool := List Bytes → Step Nat

/-- Write to a stream. -/
def write (stream : Stream) (bytes : Bytes) : Step Unit :=
  modify fun process =>
    if process.closed.contains stream then
      { process with lost := process.lost || (stream = .stdout && bytes ≠ []) }
    else if bytes = [] then process
    else { process with output := { stream, bytes, moment := process.clock } :: process.output }

/-- Write to the standard output. -/
def emit (bytes : Bytes) : Step Unit :=
  write .stdout bytes

/-- Write a line to the standard output. -/
def emitLine (bytes : Bytes) : Step Unit :=
  emit (bytes ++ [Bytes.newline])

/-- Complain in the name of the program. -/
def complain (text : Bytes) : Step Unit := do
  write .stderr ((← get).name ++ Bytes.ofText ": " ++ text ++ [Bytes.newline])

/-- Complain and point to the help of the program, with a status. -/
def misused (text : Bytes) (status : Nat := 1) : Step Nat := do
  complain text
  let name := (← get).name
  write .stderr (Bytes.ofText "Try '" ++ name ++ Bytes.ofText " --help' for more information.\n")
  return status

/-- The description of an error. -/
def reason : OsError → Bytes
  | .code number => Bytes.ofText (OsError.describe number)
  | .text message => Bytes.ofText message

/-- A name between quotation marks. -/
def quoted (name : Bytes) : Bytes :=
  Bytes.ofText "'" ++ name ++ Bytes.ofText "'"

/-- The characters that make quotation marks around a name necessary. -/
def specialBytes : Bytes :=
  Bytes.ofText " !\"$&()*;<=>?[^`|\\'\t\n"

/-- A name between quotation marks, where it needs them. -/
def quotedIfNeeded (name : Bytes) : Bytes :=
  if name = [] || name.any specialBytes.contains then quoted name else name

/-- Take over a changed file tree, or complain about the failure. -/
def change (outcome : Except OsError FileTree) (what : Bytes) : Step Bool := do
  match outcome with
  | .ok files =>
      modify ({ · with files })
      return true
  | .error error =>
      complain (what ++ Bytes.ofText ": " ++ reason error)
      return false

/-- Do something for every operand: the status is 0 when all of it succeeded. -/
def forAll (operands : List Bytes) (work : Bytes → Step Bool) (failure : Nat := 1) : Step Nat := do
  let outcomes ← operands.mapM work
  return if outcomes.all (·) then 0 else failure

/-! ## Options -/

/-- Which options a program has: letters that stand alone, letters that take a
value, and long names for letters. -/
structure OptionTable where
  plain : List Char := []
  valued : List Char := []
  long : List (String × Char) := []

/-- Options with their values, and the operands. -/
structure Request where
  options : List (Char × Bytes) := []
  operands : List Bytes := []

namespace Request

/-- Whether an option is given. -/
def has (request : Request) (letter : Char) : Bool :=
  request.options.any (·.1 = letter)

/-- The value of an option, that of its last occurrence. -/
def value? (request : Request) (letter : Char) : Option Bytes :=
  (request.options.reverse.find? (·.1 = letter)).map Prod.snd

/-- Put options in front. -/
def adding (options : List (Char × Bytes)) (request : Request) : Request :=
  { request with options := options ++ request.options }

end Request

namespace OptionTable

/-- Read the letters of one argument: the options, and the letter that still
needs a value; otherwise the letter that is no option. -/
def readLetters (table : OptionTable) : Bytes → Except Char (List (Char × Bytes) × Option Char)
  | [] => .ok ([], none)
  | byte :: rest =>
      let letter := Char.ofNat byte.toNat
      if table.plain.contains letter then
        (readLetters table rest).map fun (options, open') => ((letter, []) :: options, open')
      else if table.valued.contains letter then
        match rest with
        | [] => .ok ([], some letter)
        | value => .ok ([(letter, value)], none)
      else .error letter

/-- The letter for a long name. -/
def letterOf? (table : OptionTable) (name : Bytes) : Option Char :=
  (table.long.find? fun entry => Bytes.ofText entry.1 = name).map Prod.snd

/-- The complaint about a letter that is no option. -/
def invalid (letter : Char) : Bytes :=
  Bytes.ofText "invalid option -- '" ++ [letter.toNat.toUInt8] ++ Bytes.ofText "'"

/-- Divide arguments into options and operands, which may be mixed. -/
def read (table : OptionTable) : List Bytes → Except Bytes Request
  | [] => .ok {}
  | argument :: rest =>
      match argument with
      | 0x2D :: 0x2D :: [] => .ok { operands := rest }
      | 0x2D :: 0x2D :: name =>
          let long := name.takeWhile (· ≠ 0x3D)
          match table.letterOf? long with
          | none => .error (Bytes.ofText "unrecognized option " ++ quoted argument)
          | some letter =>
              (read table rest).map (Request.adding [(letter, name.drop (long.length + 1))])
      | 0x2D :: first :: letters =>
          match table.readLetters (first :: letters) with
          | .error letter => .error (invalid letter)
          | .ok (options, none) => (read table rest).map (Request.adding options)
          | .ok (options, some letter) =>
              match rest with
              | [] =>
                  .error (Bytes.ofText ("option requires an argument -- '" ++ letter.toString ++ "'"))
              | value :: rest =>
                  (read table rest).map (Request.adding (options ++ [(letter, value)]))
      | operand =>
          (read table rest).map fun request =>
            { request with operands := operand :: request.operands }

/-- Go on with the options and operands of a program, unless they are wrong. -/
def handle (table : OptionTable) (arguments : List Bytes) (work : Request → Step Nat)
    (failure : Nat := 1) : Step Nat :=
  match table.read arguments with
  | .error complaint => misused complaint failure
  | .ok request => work request

end OptionTable

/-- Run a program that runs by itself. -/
def Tool.execute (tool : Tool) (invocation : Invocation) (files : FileTree) : Execution :=
  let run : Step Nat := do
    let status ← tool invocation.arguments
    if (← get).lost then
      complain (Bytes.ofText "write error: Bad file descriptor")
      return 1
    return status
  let (status, process) := run.run
    { name := invocation.name
      environment := invocation.environment
      files
      directory := invocation.directory
      input := invocation.input
      closed := invocation.closed }
  { output := process.output.reverse
    files := process.files
    status := .exited status
    unread := process.input
    duration := process.clock }

end CompileDriver.Program
