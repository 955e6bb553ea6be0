import CompileDriver.Shell.Arithmetic
import CompileDriver.Shell.Pattern
import CompileDriver.Shell.State

/-!
# Expanding words

The pieces of a word are replaced by what they stand for.  What a substitution
puts into a word without quotes is divided into fields at the separators; the
fields of a command are then taken as patterns for names of files.

An expansion can change the state of the shell, since it may set variables and
run scripts; it fails with a complaint that ends the shell.
-/

namespace CompileDriver.Shell

/-- A part of an expanded word. -/
inductive Atom
  /-- A byte that belongs to its field. -/
  | byte (mark : Mark)
  /-- A byte that was put in without quotes, so that it can separate fields. -/
  | value (byte : UInt8)
  /-- Quoted text, which makes a field even when it is empty. -/
  | quotation
  /-- The end of a field. -/
  | boundary
  deriving Repr, DecidableEq

/-! ## Fields -/

/-- Fields under construction: the complete ones and the bytes of the one that is
being built, both in reverse order, and whether the last complete field ended at
blank separators, to which one more separator belongs. -/
structure Splitting where
  complete : List (List Mark) := []
  current : Option (List Mark) := none
  afterBlank : Bool := false

namespace Splitting

/-- Add a mark to the field that is being built. -/
def add (splitting : Splitting) (mark : Mark) : Splitting :=
  { splitting with current := some (mark :: splitting.current.getD []), afterBlank := false }

/-- Complete the field that is being built. -/
def close (splitting : Splitting) : Splitting :=
  match splitting.current with
  | none => splitting
  | some field =>
      { complete := field.reverse :: splitting.complete, current := none, afterBlank := false }

/-- Go past a separator.  Blanks separate together, every other separator on its
own. -/
def separate (splitting : Splitting) (byte : UInt8) : Splitting :=
  if byte = 0x20 || byte = 0x09 || byte = 0x0A then
    if splitting.current.isSome then { splitting.close with afterBlank := true } else splitting
  else if splitting.current.isSome then splitting.close
  else if splitting.afterBlank then { splitting with afterBlank := false }
  else { splitting with complete := [] :: splitting.complete }

/-- Go on with a part of a word. -/
def step (separators : Bytes) (splitting : Splitting) : Atom → Splitting
  | .byte mark => splitting.add mark
  | .value byte =>
      if separators.contains byte then splitting.separate byte
      else splitting.add { byte, fixed := false }
  | .quotation => { splitting with current := some (splitting.current.getD []) }
  | .boundary => splitting.close

end Splitting

/-- The fields of an expanded word. -/
def fieldsOf (separators : Bytes) (atoms : List Atom) : List (List Mark) :=
  (atoms.foldl (Splitting.step separators) {}).close.complete.reverse

/-- An expanded word as one text.  Where fields would end stands the first
separator. -/
def joinedText (separators : Bytes) (atoms : List Atom) : Bytes :=
  atoms.flatMap fun atom =>
    match atom with
    | .byte mark => [mark.byte]
    | .value byte => [byte]
    | .quotation => []
    | .boundary => separators.take 1

/-- An expanded word as the marks of a pattern. -/
def patternMarks (atoms : List Atom) : List Mark :=
  atoms.flatMap fun atom =>
    match atom with
    | .byte mark => [mark]
    | .value byte => [{ byte, fixed := false }]
    | .quotation => []
    | .boundary => [{ byte := 0x20, fixed := false }]

/-- The parts that a value puts into a word. -/
def atomsOf (quoted : Bool) (value : Bytes) : List Atom :=
  if quoted then .quotation :: (Mark.literal value).map .byte else value.map .value

/-! ## Pieces -/

/-- An expansion; it can fail with a complaint. -/
abbrev Expansion := ExceptT Bytes (StateM State)

/-- What runs the script of a substitution: the state that it leaves and what it
wrote. -/
abbrev Substitution := Bytes → State → State × Bytes

/-- The name of a parameter in complaints. -/
def Parameter.label : Parameter → Bytes
  | .named name => name
  | .position number => Bytes.ofText (toString number)
  | .count => Bytes.ofText "#"
  | .joined => Bytes.ofText "*"
  | .each => Bytes.ofText "@"
  | .status => Bytes.ofText "?"
  | .process => Bytes.ofText "$"
  | .background => Bytes.ofText "!"
  | .options => Bytes.ofText "-"

/-- A complaint about a parameter. -/
def Parameter.complaint (parameter : Parameter) (text : String) : Bytes :=
  parameter.label ++ Bytes.ofText (": " ++ text)

/-- The word that a text stands for. -/
def readText (read : Bytes → Except String Word) (text : Bytes) : Expansion Word :=
  match read text with
  | .ok word => return word
  | .error message => throw (Bytes.ofText message)

/-- Whether a parameter counts as missing. -/
def Absence.holds (missing : Absence) (value : Option Bytes) : Bool :=
  match missing, value with
  | _, none => true
  | .unset, some _ => false
  | .unsetOrEmpty, some value => value = []

/-- The arguments as parts of a word. -/
def argumentAtoms (state : State) (joined quoted : Bool) : List Atom :=
  if joined && quoted then
    atomsOf true (List.intercalate (state.separators.take 1) state.arguments)
  else List.intercalate [.boundary] (state.arguments.map (atomsOf quoted))

/-- The parts that the value of a parameter puts into a word. -/
def parameterAtoms (state : State) (parameter : Parameter) (quoted : Bool) : List Atom :=
  match parameter with
  | .each => argumentAtoms state false quoted
  | .joined => argumentAtoms state true quoted
  | _ => atomsOf quoted ((state.parameter? parameter).getD [])

/-- Complain about a parameter that is not set, where the shell is to do so. -/
def demand (parameter : Parameter) : Expansion Unit := do
  let state ← get
  let isMissing := (state.parameter? parameter).isNone
  let isList := parameter = .each || parameter = .joined
  if state.options.refuseUnset && isMissing && !isList then
    throw (parameter.complaint "parameter not set")

/-- Set a parameter in the course of an expansion. -/
def setParameter (parameter : Parameter) (value : Bytes) : Expansion Unit := do
  match parameter with
  | .named name =>
      if (← get).isFixed name then throw (parameter.complaint "is read only")
      modify (·.setVariable name value)
  | _ => throw (parameter.complaint "bad variable name")

/-- Expand a word that stands inside a piece.  Its bytes can separate fields
where the piece has no quotes. -/
def expandInner (inner : Word → Expansion (List Atom)) (quoted : Bool) (text : Bytes) :
    Expansion (List Atom) := do
  if quoted then inner (← readText (wordOfQuoted .braceEnd) text)
  else
    let atoms ← inner (← readText wordOfText text)
    return atoms.map fun atom =>
      match atom with
      | .byte { byte, fixed := false } => .value byte
      | atom => atom

/-- Expand a parameter with a modifier. -/
def expandParameter (inner : Word → Expansion (List Atom)) (parameter : Parameter)
    (quoted : Bool) : Modifier → Expansion (List Atom)
  | .plain => do
      demand parameter
      return parameterAtoms (← get) parameter quoted
  | .length => do
      demand parameter
      let value := ((← get).parameter? parameter).getD []
      return atomsOf quoted (Bytes.ofText (toString value.length))
  | .orElse missing word => do
      if missing.holds ((← get).parameter? parameter) then expandInner inner quoted word
      else return parameterAtoms (← get) parameter quoted
  | .orAssign missing word => do
      if missing.holds ((← get).parameter? parameter) then
        let atoms ← expandInner inner quoted word
        let value := joinedText (← get).separators atoms
        setParameter parameter value
        return atomsOf quoted value
      else return parameterAtoms (← get) parameter quoted
  | .orFail missing word => do
      if missing.holds ((← get).parameter? parameter) then
        let atoms ← expandInner inner quoted word
        if word = [] then
          throw (parameter.complaint
            (if missing = .unset then "parameter not set" else "parameter not set or null"))
        throw (parameter.label ++ Bytes.ofText ": " ++ joinedText (← get).separators atoms)
      else return parameterAtoms (← get) parameter quoted
  | .ifPresent missing word => do
      if missing.holds ((← get).parameter? parameter) then
        return if quoted then [.quotation] else []
      else expandInner inner quoted word
  | .trim atEnd longest text => do
      demand parameter
      let atoms ← inner (← readText wordOfText text)
      let value := ((← get).parameter? parameter).getD []
      let pattern := Pattern.ofMarks (patternMarks atoms)
      return atomsOf quoted
        (if atEnd then pattern.trimEnd longest value else pattern.trimStart longest value)
  | .unknown => throw (Bytes.ofText "Bad substitution")

/-- Expand a script to what it writes, without zero bytes and without the line
ends behind it. -/
def expandOutput (substitution : Substitution) (script : Bytes) (quoted : Bool) :
    Expansion (List Atom) := do
  let (state, written) := substitution script (← get)
  set { state with substituted := state.status, status := (← get).status }
  let text := written.filter (· ≠ 0)
  return atomsOf quoted ((text.reverse.dropWhile (· = Bytes.newline)).reverse)

/-- Expand an arithmetic expression to its value. -/
def expandArithmetic (inner : Word → Expansion (List Atom)) (expression : Bytes) (quoted : Bool) :
    Expansion (List Atom) := do
  let atoms ← inner (← readText (wordOfQuoted .textEnd) expression)
  let state ← get
  match Arithmetic.evaluate state.valueOf? (joinedText state.separators atoms) with
  | .error message => throw (Bytes.ofText message)
  | .ok (value, bindings) =>
      for (name, value) in bindings do
        setParameter (.named name) value
      return atomsOf quoted (Bytes.ofText (toString value))

/-- Expand a piece; `inner` expands the words inside it. -/
def expandPiece (substitution : Substitution) (inner : Word → Expansion (List Atom)) :
    Piece → Expansion (List Atom)
  | .literal bytes true => return atomsOf true bytes
  | .literal bytes false => return bytes.map fun byte => .byte { byte, fixed := false }
  | .parameter parameter modifier quoted => expandParameter inner parameter quoted modifier
  | .output script _ quoted => expandOutput substitution script quoted
  | .arithmetic expression quoted => expandArithmetic inner expression quoted

/-- Expand a word in which words are nested at most so deep. -/
def expandWithin (substitution : Substitution) : Nat → Word → Expansion (List Atom)
  | 0, _ => return []
  | depth + 1, word => do
      return (← word.mapM (expandPiece substitution (expandWithin substitution depth))).flatten

/-- The length of the text inside a piece, which is more than the depth of the
words that are nested in it. -/
def Piece.depth : Piece → Nat
  | .parameter _ modifier _ =>
      match modifier with
      | .orElse _ word | .orAssign _ word | .orFail _ word | .ifPresent _ word | .trim _ _ word =>
          word.length + 1
      | _ => 1
  | .arithmetic expression _ => expression.length + 1
  | _ => 1

/-- Expand a word. -/
def expand (substitution : Substitution) (word : Word) : Expansion (List Atom) :=
  expandWithin substitution (word.foldl (fun depth piece => depth + piece.depth) 0 + 1) word

/-! ## Words in their places -/

/-- The fields that words stand for. -/
def expandFields (substitution : Substitution) (words : List Word) : Expansion (List Bytes) := do
  let fields ← words.mapM fun word => do
    let atoms ← expand substitution word
    return fieldsOf (← get).separators atoms
  let state ← get
  if state.options.noNames then return fields.flatten.map Mark.bytes
  else return fields.flatten.flatMap (fileNames state.files state.directory)

/-- The text that a word stands for where it is not divided into fields. -/
def expandText (substitution : Substitution) (word : Word) : Expansion Bytes := do
  let atoms ← expand substitution word
  return joinedText (← get).separators atoms

/-- The pattern that a word stands for. -/
def expandPattern (substitution : Substitution) (word : Word) : Expansion Pattern := do
  return Pattern.ofMarks (patternMarks (← expand substitution word))

end CompileDriver.Shell
