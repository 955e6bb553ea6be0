import CompileDriver.Program.Process
import CompileDriver.Shell.Pattern
import CompileDriver.Shell.Printing

/-!
# Programs that work on text

Programs that write their arguments, and programs that read files or the
standard input and write a part or another form of what they read.
-/

namespace CompileDriver.Program.Tool

open CompileDriver.Shell (ofBytes toBytes)

/-! ## Writing arguments -/

/-- Whether an argument is an option of `echo`. -/
def isEchoOption (argument : Bytes) : Bool :=
  match ofBytes argument with
  | '-' :: letter :: letters => (letter :: letters).all ['n', 'e', 'E'].contains
  | _ => false

/-- Write the arguments.  Escapes have a meaning only where an option asks for
it. -/
def echo : Tool := fun arguments => do
  let options := arguments.takeWhile isEchoOption
  let text := List.intercalate [0x20] (arguments.drop options.length)
  let letters := options.flatten.filter fun byte => byte = 0x65 || byte = 0x45
  let silent := options.any (·.contains 0x6E)
  let (chars, ended) :=
    if letters.getLast? = some 0x65 then Shell.unescaped (ofBytes text) else (ofBytes text, false)
  emit (toBytes chars ++ if silent || ended then [] else [Bytes.newline])
  return 0

/-- How often a line is repeated without end. -/
def endlessLines : Nat := 40000

/-- Write the arguments again and again.  Nobody reads all of it. -/
def yes : Tool := fun arguments => do
  let text := if arguments = [] then Bytes.ofText "y" else List.intercalate [0x20] arguments
  emit (Bytes.copies endlessLines (text ++ [Bytes.newline]))
  return 0

/-- Write numbers from the first to the last. -/
def seq : Tool := fun arguments => do
  let numbers := arguments.filterMap Shell.Arithmetic.number?
  let emitFrom (first step last : Int) : Step Nat := do
    let count := if step = 0 then 0 else (Int.fdiv (last - first) step + 1).toNat
    emit ((List.range count).flatMap fun (index : Nat) =>
      Bytes.ofText (toString (first + step * (index : Int)) ++ "\n"))
    return 0
  match arguments.find? fun argument => (Shell.Arithmetic.number? argument).isNone with
  | some argument => misused (Bytes.ofText "invalid floating point argument: " ++ quoted argument)
  | none =>
      match numbers with
      | [last] => emitFrom 1 1 last
      | [first, last] => emitFrom first 1 last
      | [first, step, last] => emitFrom first step last
      | [] => misused (Bytes.ofText "missing operand")
      | _ => misused (Bytes.ofText "extra operand " ++ quoted (arguments.getD 3 []))

/-- Write the last segment of a path, without a suffix. -/
def basename : Tool := fun arguments => do
  match arguments with
  | [] => misused (Bytes.ofText "missing operand")
  | path :: rest =>
      let trimmed := FileTree.withoutTrailingSlashes path
      let name :=
        if trimmed ≠ [] && trimmed.all (· = Bytes.slash) then [Bytes.slash]
        else (trimmed.reverse.takeWhile (· ≠ Bytes.slash)).reverse
      let suffix := rest.headD []
      let short :=
        if suffix ≠ name && suffix.isSuffixOf name then name.take (name.length - suffix.length)
        else name
      emitLine short
      return 0

/-- Write paths without their last segments. -/
def dirname : Tool := fun arguments => do
  if arguments = [] then return ← misused (Bytes.ofText "missing operand")
  forAll arguments fun path => do
    let trimmed := FileTree.withoutTrailingSlashes path
    let before := trimmed.reverse.dropWhile (· ≠ Bytes.slash)
    let parent := (before.dropWhile (· = Bytes.slash)).reverse
    emitLine
      (if before = [] then [Bytes.dot]
        else if parent = [] then [Bytes.slash]
        else parent)
    return true

/-- Write the values of environment variables, or all of them. -/
def printEnvironment : Tool := fun arguments => do
  let environment := (← get).environment
  if arguments = [] then
    for (name, value) in environment do
      emitLine (name ++ 0x3D :: value)
    return 0
  forAll arguments fun name => do
    match environment.lookup name with
    | none => return false
    | some value =>
        emitLine value
        return true

/-! ## Reading -/

/-- Take the whole standard input. -/
def takeInput : Step Bytes := do
  let input := (← get).input
  modify ({ · with input := [] })
  return input

/-- How many bytes are read from the device that never ends. -/
def zeroSupply : Nat := 1048576

/-- The content of a file; a hyphen means the standard input. -/
def contentOf (path : Bytes) : Step (Except OsError Bytes) := do
  if path = Bytes.ofText "-" then return .ok (← takeInput)
  let process ← get
  match process.files.entry process.directory path with
  | .ok (_, .zeroDevice) => return .ok (List.replicate zeroSupply 0)
  | _ => return process.files.read process.directory path

/-- Do something with the content of every file, or of the standard input when
there is none. -/
def forContents (operands : List Bytes) (refuse : Bytes → OsError → Bytes)
    (work : Bytes → Bytes → Step Unit) : Step Nat :=
  forAll (if operands = [] then [Bytes.ofText "-"] else operands) fun path => do
    match ← contentOf path with
    | .ok content =>
        work path content
        return true
    | .error error =>
        complain (refuse path error)
        return false

/-- The complaint about a file that names it and the error. -/
def plainRefusal (path : Bytes) (error : OsError) : Bytes :=
  quotedIfNeeded path ++ Bytes.ofText ": " ++ reason error

/-- The lines of a text, each with its line end if it has one. -/
def linesOf (content : Bytes) : List Bytes :=
  let pieces := Bytes.splitAt Bytes.newline content
  pieces.dropLast.map (· ++ [Bytes.newline]) ++ pieces.getLast?.toList.filter (· ≠ [])

/-- A text filled up with blanks on the left. -/
def padded (width : Nat) (text : String) : Bytes :=
  List.replicate (width - text.length) 0x20 ++ Bytes.ofText text

/-- Write files, or the standard input, one after the other. -/
def cat : Tool := fun arguments =>
  OptionTable.handle { plain := ['n', 'u'], long := [("number", 'n')] } arguments fun request => do
    let before := (← get).output
    let status ← forContents request.operands plainRefusal fun _ content => emit content
    if request.has 'n' then
      let written := (← get).output.take ((← get).output.length - before.length)
      let text := (written.reverse.filter (·.stream = .stdout)).flatMap Written.bytes
      modify fun process =>
        { process with output := written.filter (·.stream ≠ .stdout) ++ before }
      emit (((linesOf text).zipIdx 1).flatMap fun (line, number) =>
        padded 6 (toString number) ++ 0x09 :: line)
    if (← get).lost then
      modify ({ · with lost := false })
      complain (Bytes.ofText "standard output: Bad file descriptor")
      return 1
    return status

/-- Arguments in which a number behind a hyphen stands for a number of lines. -/
def withLineCount (arguments : List Bytes) : List Bytes :=
  match arguments with
  | (0x2D :: digits) :: rest =>
      if digits ≠ [] && (ofBytes digits).all Char.isDigit then (0x2D :: 0x6E :: digits) :: rest
      else arguments
  | _ => arguments

/-- How much of a text is meant. -/
structure Extent where
  /-- Whether bytes are counted, and not lines. -/
  bytes : Bool
  /-- The sign in front of the number. -/
  sign : Option UInt8
  count : Nat

/-- The extent that options ask for, by default ten lines. -/
def extentOf (request : Request) : Except Bytes Extent :=
  let bytes := request.has 'c'
  let text := ((request.value? 'c').or (request.value? 'n')).getD (Bytes.ofText "10")
  let sign := text.head?.filter fun byte => byte = 0x2B || byte = 0x2D
  let digits := ofBytes (if sign.isSome then text.drop 1 else text)
  let number := digits.takeWhile Char.isDigit
  let unit? :=
    match digits.drop number.length with
    | [] => some 1
    | ['b'] => some 512
    | ['k'] | ['K'] => some 1024
    | ['M'] => some 1048576
    | _ => none
  match unit? with
  | some unit =>
      if number.isEmpty then .error text
      else .ok { bytes, sign, count := Shell.Arithmetic.ofDigits 10 number * unit }
  | none => .error text

/-- The options of programs that write a part of files. -/
def extentOptions : OptionTable :=
  { plain := ['q', 'v'], valued := ['n', 'c'], long := [("lines", 'n'), ("bytes", 'c')] }

/-- Write a part of every file, with a heading where there are several. -/
def writeParts (part : Extent → Bytes → Bytes) (arguments : List Bytes) : Step Nat :=
  extentOptions.handle (withLineCount arguments) fun request => do
    match extentOf request with
    | .error text =>
        let unit := if request.has 'c' then "bytes" else "lines"
        complain (Bytes.ofText ("invalid number of " ++ unit ++ ": ") ++ quoted text)
        return 1
    | .ok extent =>
        let showsNames := request.has 'v' || (request.operands.length > 1 && !request.has 'q')
        let refuse (path : Bytes) (error : OsError) : Bytes :=
          Bytes.ofText "cannot open " ++ quoted path ++ Bytes.ofText " for reading: " ++ reason error
        forContents request.operands refuse fun path content => do
          if showsNames then
            let isFirst := (← get).output.all (·.stream ≠ .stdout)
            emit (Bytes.ofText (if isFirst then "==> " else "\n==> ") ++ path ++
              Bytes.ofText " <==\n")
          emit (part extent content)

/-- Write the beginning of files. -/
def head : Tool :=
  writeParts fun extent content =>
    let isRest := extent.sign = some 0x2D
    if extent.bytes then
      content.take (if isRest then content.length - extent.count else extent.count)
    else
      let lines := linesOf content
      (lines.take (if isRest then lines.length - extent.count else extent.count)).flatten

/-- Write the end of files. -/
def tail : Tool :=
  writeParts fun extent content =>
    let isFrom := extent.sign = some 0x2B
    if extent.bytes then
      content.drop (if isFrom then extent.count - 1 else content.length - extent.count)
    else
      let lines := linesOf content
      (lines.drop (if isFrom then extent.count - 1 else lines.length - extent.count)).flatten

/-- The number of words in a text. -/
def wordCount (content : Bytes) : Nat :=
  (content.foldl
    (fun (count, inside) byte =>
      let isBlank := [0x20, 0x09, 0x0A, 0x0B, 0x0C, 0x0D].contains byte
      (if inside || isBlank then count else count + 1, !isBlank))
    (0, false)).1

/-- Count lines, words and bytes. -/
def count : Tool := fun arguments =>
  OptionTable.handle { plain := ['l', 'w', 'c', 'm'] } arguments fun request => do
    let letters := ['l', 'w', 'c'].filter fun letter =>
      request.options.isEmpty || request.has letter || (letter = 'c' && request.has 'm')
    let process ← get
    let sizes := request.operands.map fun path =>
      match process.files.read process.directory path with
      | .ok content => content.length
      | .error _ => 0
    let width :=
      if letters.length = 1 && request.operands.length ≤ 1 then 1
      else if request.operands.isEmpty ||
          request.operands.any (process.files.isDirectory process.directory) then 7
      else (toString (sizes.foldl (· + ·) 0)).length
    let line (counts : List Nat) (name : Bytes) : Bytes :=
      List.intercalate [0x20] (counts.map fun count => padded width (toString count)) ++
        (if name = [] then [] else 0x20 :: name)
    let countsOf (content : Bytes) : List Nat := letters.map fun letter =>
      if letter = 'l' then content.count Bytes.newline
      else if letter = 'w' then wordCount content
      else content.length
    let status ← forAll (if request.operands = [] then [Bytes.ofText "-"] else request.operands)
      fun path => do
        let name := if request.operands.isEmpty then [] else path
        match ← contentOf path with
        | .ok content =>
            emitLine (line (countsOf content) name)
            return true
        | .error error =>
            complain (plainRefusal path error)
            if error = .isDirectory then emitLine (line (countsOf []) name)
            return false
    if request.operands.length > 1 then
      let contents := request.operands.filterMap fun path =>
        (process.files.read process.directory path).toOption
      let totals := contents.foldl
        (fun totals content => totals.zipWith (· + ·) (countsOf content))
        (letters.map fun _ => 0)
      emitLine (line totals (Bytes.ofText "total"))
    return status

/-- Copy the standard input to the standard output and to files. -/
def tee : Tool := fun arguments =>
  OptionTable.handle { plain := ['a', 'i'], long := [("append", 'a')] } arguments fun request => do
    let input ← takeInput
    emit input
    forAll request.operands fun path => do
      let process ← get
      let outcome := (process.files.openForWriting process.directory path).map fun (files, place) =>
        let files := if request.has 'a' then files else files.setContent place []
        files.append place input
      change outcome (quotedIfNeeded path)

/-- The lines of a text, without their ends. -/
def bareLines (content : Bytes) : List Bytes :=
  (linesOf content).map fun line => line.takeWhile (· ≠ Bytes.newline)

/-- Write the lines of files in order. -/
def sort : Tool := fun arguments =>
  OptionTable.handle { plain := ['r', 'u', 'n', 's'] } arguments (fun request => do
    let key (line : Bytes) : Int := ((Shell.Arithmetic.split? (ofBytes line)).map Prod.fst).getD 0
    let ordered (a b : Bytes) : Bool :=
      if request.has 'n' && key a ≠ key b then key a ≤ key b else a ≤ b
    let contents ← (if request.operands = [] then [Bytes.ofText "-"] else request.operands).mapM
      fun path => do return (path, ← contentOf path)
    for (path, content) in contents do
      if let .error error := content then
        complain (Bytes.ofText "cannot read: " ++ plainRefusal path error)
        return 2
    let lines := (contents.flatMap fun (_, content) =>
      (content.toOption.map bareLines).getD []).mergeSort ordered
    let lines := if request.has 'u' then lines.eraseReps else lines
    for line in if request.has 'r' then lines.reverse else lines do
      emitLine line
    return 0) 2

/-- Write the lines of a file without repetitions. -/
def unique : Tool := fun arguments => do
  forContents (arguments.take 1) plainRefusal fun _ content => do
    for line in (bareLines content).eraseReps do
      emitLine line

/-! ## Replacing bytes -/

/-- The bytes that a set of `tr` lists, with escapes, ranges and classes.  The
first argument bounds the number of steps. -/
def setBytes : Nat → List Char → List Char
  | 0, _ => []
  | _, [] => []
  | steps + 1, '[' :: ':' :: rest =>
      let name := rest.takeWhile Char.isAlpha
      let members := (List.range 256).filter fun value =>
        Shell.inClass (String.ofList name) value.toUInt8
      members.map Char.ofNat ++ setBytes steps (rest.drop (name.length + 2))
  | steps + 1, c :: rest =>
      let (first, rest) := if c = '\\' then Shell.readEscape rest else (c, rest)
      match rest with
      | '-' :: d :: after =>
          let (last, after) := if d = '\\' then Shell.readEscape after else (d, after)
          (List.range (last.toNat + 1 - first.toNat)).map (fun step =>
            Char.ofNat (first.toNat + step)) ++ setBytes steps after
      | _ => first :: setBytes steps rest

/-- The bytes of a set. -/
def byteSet (argument : Bytes) : Bytes :=
  toBytes (setBytes (argument.length + 1) (ofBytes argument))

/-- A text in which repetitions of the bytes of a set are reduced to one. -/
def squeezed (set : Bytes) : Bytes → Bytes
  | [] => []
  | byte :: rest =>
      let rest' := squeezed set rest
      if set.contains byte && rest'.head? = some byte then rest' else byte :: rest'

/-- Replace the bytes of one set by those of another one, whose last byte stands
for all that it is short of; or delete them, or reduce their repetitions. -/
def translate : Tool := fun arguments =>
  OptionTable.handle { plain := ['d', 's', 'c', 'C'] } arguments fun request => do
    let isComplement := request.has 'c' || request.has 'C'
    let chosen (argument : Bytes) : Bytes :=
      let set := byteSet argument
      if isComplement then
        ((List.range 256).map Nat.toUInt8).filter fun byte => !set.contains byte
      else set
    match request.operands with
    | [] => misused (Bytes.ofText "missing operand")
    | [first] =>
        let set := chosen first
        if request.has 'd' then
          emit ((← takeInput).filter fun byte => !set.contains byte)
          return 0
        else if request.has 's' then
          emit (squeezed set (← takeInput))
          return 0
        else
          complain (Bytes.ofText "missing operand after " ++ quoted first)
          write .stderr (Bytes.ofText "Two strings must be given when translating.\n")
          write .stderr
            (Bytes.ofText "Try '" ++ (← get).name ++ Bytes.ofText " --help' for more information.\n")
          return 1
    | first :: second :: _ =>
        let wanted := chosen first
        let given := byteSet second
        let replace (byte : UInt8) : UInt8 :=
          match wanted.idxOf? byte with
          | some place => given.getD place (given.getLastD byte)
          | none => byte
        let replaced := (← takeInput).map replace
        emit (if request.has 's' then squeezed given replaced else replaced)
        return 0

end CompileDriver.Program.Tool
