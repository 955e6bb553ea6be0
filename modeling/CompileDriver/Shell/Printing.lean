import CompileDriver.Shell.Arithmetic

/-!
# Printing commands of the shell

The texts that `echo` and `printf` write for their arguments.  Both know
backslash escapes; `printf` also fills the conversions of its format with
arguments and starts over as long as arguments are left.
-/

namespace CompileDriver.Shell

/-! ## Escapes -/

/-- The value of an octal digit. -/
def octalDigit? (c : Char) : Option Nat :=
  if '0' ≤ c ∧ c ≤ '7' then some (c.toNat - 0x30) else none

/-- Read at most `digits` octal digits: their value and the rest. -/
def readOctal : Nat → Nat → List Char → Nat × List Char
  | 0, value, rest => (value, rest)
  | digits + 1, value, c :: rest =>
      match octalDigit? c with
      | some digit => readOctal digits (value * 8 + digit) rest
      | none => (value, c :: rest)
  | _, value, [] => (value, [])

/-- What a backslash and the character after it stand for, for the escapes of
one character. -/
def simpleEscape? : Char → Option Char
  | '\\' => some '\\'
  | 'a' => some '\x07'
  | 'b' => some '\x08'
  | 'e' => some '\x1b'
  | 'f' => some '\x0c'
  | 'n' => some '\n'
  | 'r' => some '\r'
  | 't' => some '\t'
  | 'v' => some '\x0b'
  | _ => none

/-- The character of a byte value. -/
def byteChar (value : Nat) : Char :=
  Char.ofNat (value % 256)

/-- Read what follows a backslash: the character meant, and the rest.  An
unknown escape stands for the backslash itself. -/
def readEscape : List Char → Char × List Char
  | [] => ('\\', [])
  | c :: rest =>
      match simpleEscape? c, octalDigit? c with
      | some meant, _ => (meant, rest)
      | none, some digit =>
          let (value, rest) := readOctal 2 digit rest
          (byteChar value, rest)
      | none, none => ('\\', c :: rest)

/-- The text with its escapes replaced, and whether an escape ended it early.
An octal escape can begin with a zero of its own.  The first argument bounds the
number of steps. -/
def unescape : Nat → List Char → List Char × Bool
  | 0, _ => ([], false)
  | _, [] => ([], false)
  | _ + 1, '\\' :: 'c' :: _ => ([], true)
  | steps + 1, '\\' :: '0' :: rest =>
      let (value, rest) := readOctal 3 0 rest
      let (chars, ended) := unescape steps rest
      (byteChar value :: chars, ended)
  | steps + 1, '\\' :: rest =>
      let (c, rest) := readEscape rest
      let (chars, ended) := unescape steps rest
      (c :: chars, ended)
  | steps + 1, c :: rest =>
      let (chars, ended) := unescape steps rest
      (c :: chars, ended)

/-- A text with its escapes replaced, and whether an escape ended it early. -/
def unescaped (text : List Char) : List Char × Bool :=
  if text.contains '\\' then unescape (text.length + 1) text else (text, false)

/-- What `echo` writes: its arguments with spaces between them and a line end,
which a first argument `-n` and the escape `\c` suppress. -/
def echoText (arguments : List Bytes) : Bytes :=
  let silent := arguments.head? = some (Bytes.ofText "-n")
  let text := List.intercalate [' '] ((if silent then arguments.drop 1 else arguments).map ofBytes)
  let (chars, ended) := unescaped text
  toBytes chars ++ if silent || ended then [] else [Bytes.newline]

/-! ## Formats -/

/-- A conversion of a format. -/
structure Directive where
  flags : List Char := []
  width : Nat := 0
  precision : Option Nat := none
  /-- The text of the conversion up to its last character. -/
  text : List Char := []

namespace Directive

/-- Fill a text up to the width of a conversion. -/
def pad (directive : Directive) (text : List Char) : List Char :=
  let missing := directive.width - text.length
  if directive.flags.contains '-' then text ++ List.replicate missing ' '
  else List.replicate missing ' ' ++ text

/-- A text cut at the precision of a conversion and filled up to its width. -/
def fillText (directive : Directive) (text : List Char) : List Char :=
  directive.pad
    (match directive.precision with
      | some precision => text.take precision
      | none => text)

/-- The digits of a number, as many as the precision of a conversion demands,
filled up to its width behind a sign or a mark of the base. -/
def fillDigits (directive : Directive) (sign digits : List Char) : List Char :=
  let digits := List.replicate (directive.precision.getD 1 - digits.length) '0' ++ digits
  let missing := directive.width - (sign.length + digits.length)
  if directive.flags.contains '0' && !directive.flags.contains '-' &&
      directive.precision.isNone then
    sign ++ List.replicate missing '0' ++ digits
  else directive.pad (sign ++ digits)

/-- The digits of a number; none for zero. -/
def digits (base value : Nat) : List Char :=
  if value = 0 then [] else Nat.toDigits base value

/-- What a conversion of numbers makes of a value. -/
def fillNumber (directive : Directive) (conversion : Char) (value : Int) : List Char :=
  let unsigned := (value % 0x10000000000000000).toNat
  let isMarked := directive.flags.contains '#' && value ≠ 0
  match conversion with
  | 'u' => directive.fillDigits [] (digits 10 unsigned)
  | 'o' => directive.fillDigits (if isMarked then ['0'] else []) (digits 8 unsigned)
  | 'x' => directive.fillDigits (if isMarked then ['0', 'x'] else []) (digits 16 unsigned)
  | 'X' =>
      directive.fillDigits (if isMarked then ['0', 'X'] else [])
        ((digits 16 unsigned).map Char.toUpper)
  | _ =>
      let sign :=
        if value < 0 then ['-']
        else if directive.flags.contains '+' then ['+']
        else if directive.flags.contains ' ' then [' ']
        else []
      directive.fillDigits sign (digits 10 value.natAbs)

end Directive

/-- How far a format has been filled. -/
structure Filling where
  /-- The arguments that are left. -/
  arguments : List Bytes
  /-- What has been written, the last character first. -/
  written : List Char := []
  complaints : List String := []
  status : Nat := 0
  /-- Whether nothing more is to be written. -/
  stopped : Bool := false

namespace Filling

/-- Write characters. -/
def write (filling : Filling) (chars : List Char) : Filling :=
  { filling with written := chars.reverse ++ filling.written }

/-- Complain, with a status that is kept. -/
def complain (filling : Filling) (status : Nat) (text : String) : Filling :=
  { filling with complaints := filling.complaints ++ [text], status }

/-- Take the next argument. -/
def next (filling : Filling) : Bytes × Filling :=
  (filling.arguments.headD [], { filling with arguments := filling.arguments.drop 1 })

/-- Take the next argument as a number.  A quotation mark in front asks for the
number of a byte. -/
def nextNumber (filling : Filling) : Int × Filling :=
  let (argument, filling) := filling.next
  match ofBytes argument with
  | [] => (0, filling)
  | first :: rest =>
      if first = '"' || first = '\'' then (((rest.headD '\x00').toNat : Nat), filling)
      else
        let text := Utf8.lossy argument
        match Arithmetic.split? (first :: rest) with
        | none => (0, filling.complain 1 (text ++ ": expected numeric value"))
        | some (value, behind) =>
            let clamped := Arithmetic.clamp value
            if behind ≠ [] then
              (clamped, filling.complain 1 (text ++ ": not completely converted"))
            else if clamped ≠ value then
              (clamped, filling.complain 1 (text ++ ": Numerical result out of range"))
            else (value, filling)

/-- Read a width or a precision, which an asterisk takes from the arguments. -/
def readMeasure (filling : Filling) : List Char → Nat × List Char × Filling
  | '*' :: rest =>
      let (value, filling) := filling.nextNumber
      (value.toNat, rest, filling)
  | chars =>
      let digits := chars.takeWhile Char.isDigit
      (Arithmetic.ofDigits 10 digits, chars.drop digits.length, filling)

/-- Read a conversion up to its last character. -/
def readDirective (filling : Filling) (chars : List Char) : Directive × List Char × Filling :=
  let flags := chars.takeWhile fun c => ['#', '-', '+', ' ', '0'].contains c
  let (width, rest, filling) := filling.readMeasure (chars.drop flags.length)
  let (precision, rest, filling) :=
    match rest with
    | '.' :: rest =>
        let (precision, rest, filling) := filling.readMeasure rest
        (some precision, rest, filling)
    | _ => (none, rest, filling)
  ({ flags, width, precision, text := chars.take (chars.length - rest.length) }, rest, filling)

/-- Fill a conversion. -/
def convert (filling : Filling) (directive : Directive) (conversion : Char) : Filling :=
  if conversion = 's' then
    let (argument, filling) := filling.next
    filling.write (directive.fillText (ofBytes argument))
  else if conversion = 'c' then
    let (argument, filling) := filling.next
    filling.write (directive.pad [(ofBytes argument).headD '\x00'])
  else if conversion = 'b' then
    let (argument, filling) := filling.next
    let (text, ended) := unescaped (ofBytes argument)
    { filling.write (directive.fillText text) with stopped := ended }
  else if ['d', 'i', 'o', 'u', 'x', 'X'].contains conversion then
    let (value, filling) := filling.nextNumber
    filling.write (directive.fillNumber conversion value)
  else
    { filling.complain 2
        ("%" ++ String.ofList (directive.text ++ [conversion]) ++ ": invalid directive") with
      stopped := true }

/-- Go through a format once.  The first argument bounds the number of steps. -/
def goThrough : Nat → List Char → Filling → Filling
  | 0, _, filling => filling
  | _, [], filling => filling
  | steps + 1, '\\' :: rest, filling =>
      let (c, rest) := readEscape rest
      goThrough steps rest (filling.write [c])
  | steps + 1, '%' :: '%' :: rest, filling => goThrough steps rest (filling.write ['%'])
  | steps + 1, '%' :: rest, filling =>
      let (directive, rest, filling) := filling.readDirective rest
      match rest with
      | [] => { filling.complain 2 "missing format character" with stopped := true }
      | conversion :: rest =>
          let filling := filling.convert directive conversion
          if filling.stopped then filling else goThrough steps rest filling
  | steps + 1, c :: rest, filling => goThrough steps rest (filling.write [c])

/-- Go through a format as long as it takes arguments and some are left. -/
def goThroughAgain : Nat → List Char → Filling → Filling
  | 0, _, filling => filling
  | rounds + 1, format, filling =>
      let filled := goThrough (format.length + 1) format filling
      if filled.stopped || filled.arguments.isEmpty ||
          filled.arguments.length = filling.arguments.length then filled
      else goThroughAgain rounds format filled

end Filling

/-- Fill a format with arguments. -/
def fillFormat (format : Bytes) (arguments : List Bytes) : Filling :=
  Filling.goThroughAgain (arguments.length + 1) (ofBytes format) { arguments }

end CompileDriver.Shell
