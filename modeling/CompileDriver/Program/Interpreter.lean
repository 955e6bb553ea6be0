import CompileDriver.Bytes

/-!
# Files that name their interpreter

A file that begins with `#!` is run by the interpreter that its first line names,
perhaps with an argument.  The system looks at a first part of the file only, as
if zero bytes followed a shorter file, and texts end at a zero byte.  Names are
separated by spaces and tabs.
-/

namespace CompileDriver.Program

/-- How many bytes of a file the system looks at. -/
def headLength : Nat := 256

/-- The part of a file that the system looks at. -/
def headOf (content : Bytes) : Bytes :=
  let bytes := content.take headLength
  bytes ++ List.replicate (headLength - bytes.length) 0

/-- Whether a byte separates names. -/
def isBlank (byte : UInt8) : Bool :=
  byte = 0x20 || byte = 0x09

/-- A text without the blanks at its end. -/
def trimmedEnd (bytes : Bytes) : Bytes :=
  (bytes.reverse.dropWhile isBlank).reverse

/-- An interpreter, and the argument that it receives in front of the path of the
file. -/
structure Interpreter where
  path : Bytes
  argument : Option Bytes
  deriving Repr, DecidableEq

/-- The interpreter that a whole line names. -/
def interpreterOfLine (line : Bytes) : Option Interpreter :=
  let text := (trimmedEnd line).dropWhile isBlank
  let path := text.takeWhile (!isBlank ·)
  let rest := (text.drop path.length).dropWhile isBlank
  if path = [] then none
  else some { path, argument := if rest = [] then none else some rest }

/-- The interpreter that is named where no line ends: a name without anything
behind it may be cut off, so it does not count.  The last byte that the system
looks at only tells whether something is behind a name. -/
def interpreterOfHead (bytes : Bytes) : Option Interpreter :=
  let ends (byte : UInt8) : Bool := isBlank byte || byte = 0
  let text := (trimmedEnd bytes.dropLast).dropWhile isBlank
  if !(bytes.dropWhile isBlank).any ends || text = [] then none
  else
    let path := text.takeWhile (!ends ·)
    let rest := text.drop path.length
    some
      { path
        argument :=
          if rest.head?.any isBlank then some ((rest.dropWhile isBlank).takeWhile (· ≠ 0))
          else none }

/-- The interpreter that a file names. -/
def interpreter? (content : Bytes) : Option Interpreter :=
  match headOf content with
  | 0x23 :: 0x21 :: rest =>
      let line := rest.takeWhile fun byte => byte ≠ Bytes.newline && byte ≠ 0
      if rest[line.length]? = some Bytes.newline then interpreterOfLine line
      else interpreterOfHead rest
  | _ => none

end CompileDriver.Program
