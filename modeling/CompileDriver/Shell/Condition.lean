import CompileDriver.FileTree.Lookup
import CompileDriver.Shell.Arithmetic

/-!
# Conditions

The conditions that `test` examines: properties of texts, numbers and files,
joined by `!`, `-a`, `-o` and brackets.  Which words are operators depends on
their number and on what stands beside them.

The functions take the words from the one that is looked at on, and give back
the words from the last one that they took.  They carry a bound on their depth,
which the entry point derives from the number of words.
-/

namespace CompileDriver.Shell.Condition

/-- What conditions can ask about. -/
structure World where
  files : FileTree
  directory : Place

/-- The operators with one operand. -/
def unary : List String :=
  ["-r", "-w", "-x", "-e", "-f", "-d", "-c", "-b", "-p", "-u", "-g", "-k", "-s", "-t", "-z", "-n",
    "-h", "-L", "-S", "-O", "-G"]

/-- The operators with two operands. -/
def binary : List String :=
  ["=", "!=", "<", ">", "-eq", "-ne", "-ge", "-gt", "-le", "-lt", "-nt", "-ot", "-ef"]

/-- The operators that join conditions. -/
def connectives : List String :=
  ["!", "-a", "-o", "(", ")"]

/-- The operator of a list that a word is. -/
def operatorOf? (operators : List String) (word : Bytes) : Option String :=
  operators.find? fun operator => Bytes.ofText operator = word

/-- Whether the word behind an operator with one operand makes that operator an
operand. -/
def isOperand : List Bytes → Bool
  | [] => true
  | [_] => false
  | second :: _ => (operatorOf? binary second).isSome

/-- The operator that the first word is in its place. -/
def operatorAt? : List Bytes → Option String
  | [] => none
  | word :: rest =>
      match operatorOf? unary word with
      | some operator => if isOperand rest then none else some operator
      | none =>
          match operatorOf? (binary ++ connectives) word with
          | some "(" => if rest = [] then none else some "("
          | operator => operator

/-- A whole text as a decimal number. -/
def number (text : Bytes) : Except String Int :=
  let chars := (ofBytes text).dropWhile Arithmetic.isBlank
  let negative := chars.head? = some '-'
  let unsigned := if negative || chars.head? = some '+' then chars.drop 1 else chars
  let digits := unsigned.takeWhile Char.isDigit
  let value : Int := Arithmetic.ofDigits 10 digits
  let value := if negative then -value else value
  if digits.isEmpty || !(unsigned.drop digits.length).all Arithmetic.isBlank ||
      Arithmetic.clamp value ≠ value then
    .error ("Illegal number: " ++ Utf8.lossy text)
  else .ok value

/-- Whether a comparison of two words holds. -/
def compare (world : World) (first : Bytes) (operator : String) (second : Bytes) :
    Except String Bool := do
  let ordered (holds : Int → Int → Bool) : Except String Bool := do
    return holds (← number first) (← number second)
  match operator with
  | "=" => return first = second
  | "!=" => return first ≠ second
  | "<" => return first < second
  | ">" => return second < first
  | "-eq" => ordered (· == ·)
  | "-ne" => ordered (· != ·)
  | "-ge" => ordered (· ≥ ·)
  | "-gt" => ordered (· > ·)
  | "-le" => ordered (· ≤ ·)
  | "-lt" => ordered (· < ·)
  | "-ef" =>
      match world.files.entry world.directory first, world.files.entry world.directory second with
      | .ok (place, _), .ok (other, _) => return place = other
      | _, _ => return false
  | _ => return false

/-- Whether something holds of the entry that a path leads to. -/
def ofEntry (world : World) (path : Path) (purpose : FileTree.Purpose) (holds : Node → Bool) : Bool :=
  match world.files.entry world.directory path purpose with
  | .ok (_, node) => holds node
  | .error _ => false

/-- Whether a test of one word holds. -/
def examine (world : World) (operator : String) (operand : Bytes) : Except String Bool :=
  let entry := ofEntry world operand .use
  match operator with
  | "-n" => .ok (operand ≠ [])
  | "-z" => .ok (operand = [])
  | "-t" => (number operand).map fun _ => false
  | "-e" | "-r" | "-w" | "-O" | "-G" => .ok (entry fun _ => true)
  | "-f" => .ok (entry Node.isFile)
  | "-d" => .ok (entry Node.isDirectory)
  | "-p" => .ok (entry (· = .fifo))
  | "-c" => .ok (entry fun node => node = .nullDevice || node = .zeroDevice)
  | "-x" =>
      .ok (entry fun node =>
        match node with
        | .file _ executable => executable
        | node => node.isDirectory)
  | "-s" =>
      .ok (entry fun node =>
        match node with
        | .file content _ => content ≠ []
        | node => node.isDirectory)
  | "-h" | "-L" =>
      .ok (ofEntry world operand .useLink fun node =>
        match node with
        | .link _ => true
        | _ => false)
  | _ => .ok false

/-- The outcome of a part of a condition, and the words from the last one that it
took. -/
abbrev Outcome := Except String (Bool × List Bytes)

/-- Whether the word behind the first one is a connective. -/
def isFollowedBy (connective : String) (words : List Bytes) : Bool :=
  operatorAt? (words.drop 1) = some connective

mutual

/-- Conditions joined by `-o`. -/
def disjunction (world : World) : Nat → List Bytes → Outcome
  | 0, words => .ok (false, words)
  | depth + 1, words => do
      let (first, words) ← conjunction world depth words
      if isFollowedBy "-o" words then
        let (second, words) ← disjunction world depth (words.drop 2)
        return (first || second, words)
      else return (first, words)

/-- Conditions joined by `-a`. -/
def conjunction (world : World) : Nat → List Bytes → Outcome
  | 0, words => .ok (false, words)
  | depth + 1, words => do
      let (first, words) ← negation world depth words
      if isFollowedBy "-a" words then
        let (second, words) ← conjunction world depth (words.drop 2)
        return (first && second, words)
      else return (first, words)

/-- A condition, perhaps negated. -/
def negation (world : World) : Nat → List Bytes → Outcome
  | 0, words => .ok (false, words)
  | depth + 1, words => do
      if operatorAt? words = some "!" then
        let (outcome, words) ← negation world depth
          (if words.length = 1 then [] else words.drop 1)
        return (!outcome, words)
      else primary world depth words

/-- A condition without connectives around it. -/
def primary (world : World) : Nat → List Bytes → Outcome
  | 0, words => .ok (false, words)
  | _, [] => .ok (false, [])
  | depth + 1, word :: rest => do
      match operatorAt? (word :: rest) with
      | some "(" =>
          if operatorAt? rest = some ")" then return (false, rest)
          let (outcome, words) ← disjunction world depth rest
          if operatorAt? (words.drop 1) ≠ some ")" then throw "closing paren expected"
          return (outcome, words.drop 1)
      | operator? =>
          match operator?.filter unary.contains with
          | some operator =>
              match rest with
              | [] => throw (operator ++ ": argument expected")
              | operand :: _ => return (← examine world operator operand, rest)
          | none =>
              match (operatorAt? rest).filter binary.contains with
              | none => return (word ≠ [], word :: rest)
              | some operator =>
                  match rest.drop 1 with
                  | [] => throw (operator ++ ": argument expected")
                  | second :: behind =>
                      return (← compare world word operator second, second :: behind)

end

/-- Whether a comparison of three words holds, when they are one. -/
def comparison? (world : World) : List Bytes → Option (Except String Bool)
  | [first, operator, second] =>
      (operatorOf? binary operator).map (compare world first · second)
  | _ => none

/-- Whether the words as a whole are a condition that holds. -/
def examineAll (world : World) (words : List Bytes) : Except String Bool := do
  let (outcome, words) ← disjunction world (4 * words.length + 8) words
  match words with
  | word :: _ :: _ => throw (Utf8.lossy word ++ ": unexpected operator")
  | _ => return outcome

/-- Whether words are a condition that holds.  No words are no such condition;
three words with a comparison in the middle are that comparison, and brackets
around or a negation before three or four words come first. -/
def holds (world : World) (words : List Bytes) : Except String Bool :=
  let inside := (words.drop 1).dropLast
  let isSmall := words.length = 3 || words.length = 4
  match comparison? world words with
  | some outcome => outcome
  | none =>
      if words = [] then .ok false
      else if isSmall && words.head? = some (Bytes.ofText "(") &&
          words.getLast? = some (Bytes.ofText ")") then examineAll world inside
      else if isSmall && words.head? = some (Bytes.ofText "!") then
        (match comparison? world (words.drop 1) with
          | some outcome => outcome
          | none => examineAll world (words.drop 1)).map (!·)
      else examineAll world words

end CompileDriver.Shell.Condition
