import CompileDriver.Shell.Token
import CompileDriver.Text.Utf8

/-!
# Arithmetic in shell scripts

Expressions over whole numbers of 64 bits, with variables, assignments and the
usual operators and their precedence.  An expression is read and evaluated at the
same time; the operands that a condition leaves out are read, but neither
evaluated nor assigned.

The functions carry a bound on their depth, which the entry point derives from
the length of the expression.
-/

namespace CompileDriver.Shell.Arithmetic

/-- A token of an expression. -/
inductive Token
  | number (value : Int)
  | name (name : Bytes)
  | operator (text : String)
  deriving Repr, DecidableEq

/-- A number as it wraps around in 64 bits. -/
def wrap (value : Int) : Int :=
  Int.bmod value 0x10000000000000000

/-- The value of a digit in a base up to sixteen. -/
def digit? (base : Nat) (c : Char) : Option Nat :=
  let value? :=
    if c.isDigit then some (c.toNat - 0x30)
    else if 'a' ≤ c ∧ c ≤ 'f' then some (c.toNat - 0x57)
    else if 'A' ≤ c ∧ c ≤ 'F' then some (c.toNat - 0x37)
    else none
  value?.filter (· < base)

/-- The number that digits stand for. -/
def ofDigits (base : Nat) (digits : List Char) : Nat :=
  digits.foldl (fun value c => value * base + (digit? base c).getD 0) 0

/-- The number that a text begins with, in base sixteen after `0x`, in base
eight after `0`, and what follows it. -/
def readNatural (chars : List Char) : Option (Nat × List Char) :=
  let read (base : Nat) (chars : List Char) :=
    let digits := chars.takeWhile fun c => (digit? base c).isSome
    (ofDigits base digits, chars.drop digits.length)
  match chars with
  | '0' :: x :: c :: rest =>
      if (x = 'x' || x = 'X') && (digit? 16 c).isSome then some (read 16 (c :: rest))
      else some (read 8 chars)
  | '0' :: _ => some (read 8 chars)
  | c :: _ => if c.isDigit then some (read 10 chars) else none
  | [] => none

/-- The largest number. -/
def largest : Int := 0x7FFFFFFFFFFFFFFF

/-- A number as it is read: one that is too large counts as the largest, one
that is too small as the smallest. -/
def clamp (value : Int) : Int :=
  max (-largest - 1) (min largest value)

/-- Whether a character is blank in front of a number. -/
def isBlank (c : Char) : Bool :=
  [' ', '\t', '\n', '\x0b', '\x0c', '\r'].contains c

/-- The number that a text begins with, behind blanks and a sign, and what
follows it. -/
def split? (chars : List Char) : Option (Int × List Char) :=
  match chars.dropWhile isBlank with
  | '-' :: rest => (readNatural rest).map fun (value, rest) => (-(value : Int), rest)
  | '+' :: rest | rest => (readNatural rest).map fun (value, rest) => ((value : Int), rest)

/-- The whole text as a number, between blanks. -/
def number? (text : Bytes) : Option Int :=
  match split? (ofBytes text) with
  | some (value, rest) => if rest.all isBlank then some (clamp value) else none
  | none => none

/-- The operators, longer ones first. -/
def operators : List String :=
  ["<<=", ">>=", "<<", ">>", "<=", ">=", "==", "!=", "&&", "||", "+=", "-=", "*=", "/=", "%=",
    "&=", "^=", "|=", "+", "-", "*", "/", "%", "&", "|", "^", "~", "!", "<", ">", "=", "?", ":",
    "(", ")"]

/-- The tokens of an expression; a character that means nothing is an operator of
its own, which nobody accepts.  The first argument bounds the number of
steps. -/
def tokens : Nat → List Char → List Token
  | 0, _ => []
  | _, [] => []
  | steps + 1, c :: rest =>
      if [' ', '\t', '\n'].contains c then tokens steps rest
      else match readNatural (c :: rest) with
        | some (value, rest) => .number (clamp value) :: tokens steps rest
        | none =>
            if isNameChar c then
              .name (toBytes ((c :: rest).takeWhile isNameChar)) ::
                tokens steps ((c :: rest).dropWhile isNameChar)
            else
              match operators.find? fun operator => operator.toList.isPrefixOf (c :: rest) with
              | some operator =>
                  .operator operator :: tokens steps ((c :: rest).drop operator.length)
              | none => .operator c.toString :: tokens steps rest

/-- The variables that an expression reads and sets. -/
abbrev Bindings := List (Bytes × Bytes)

/-- The state of an evaluation: the tokens that are left, the variables, and the
assignments so far, the last one first. -/
structure Evaluation where
  tokens : List Token
  value? : Bytes → Option Bytes
  assigned : Bindings := []

/-- An evaluation; it can fail with a complaint. -/
abbrev Evaluator := StateT Evaluation (Except String)

/-- Go past an operator of a list, if one of them comes next. -/
def acceptOf (operators : List String) : Evaluator (Option String) := do
  match (← get).tokens with
  | .operator operator :: rest =>
      if operators.contains operator then
        modify ({ · with tokens := rest })
        return some operator
      else return none
  | _ => return none

/-- The value of a variable; zero for one that is not set. -/
def valueOf (name : Bytes) : Evaluator Int := do
  let state ← get
  match (state.assigned.lookup name).or (state.value? name) with
  | none => return 0
  | some [] => return 0
  | some text =>
      match number? text with
      | some value => return value
      | none => throw ("Illegal number: " ++ Utf8.lossy text)

/-- Set a variable. -/
def assign (name : Bytes) (value : Int) : Evaluator Unit :=
  modify fun state =>
    { state with assigned := (name, Bytes.ofText (toString value)) :: state.assigned }

/-- The number for the outcome of a comparison. -/
def ofBool (outcome : Bool) : Int :=
  if outcome then 1 else 0

/-- Apply an operation bit by bit. -/
def bitwise (operation : BitVec 64 → BitVec 64 → BitVec 64) (a b : Int) : Int :=
  (operation (BitVec.ofInt 64 a) (BitVec.ofInt 64 b)).toInt

/-- Apply a binary operator. -/
def apply (operator : String) (a b : Int) : Except String Int :=
  match operator with
  | "*" => .ok (wrap (a * b))
  | "/" => if b = 0 then .error "division by zero" else .ok (wrap (Int.tdiv a b))
  | "%" => if b = 0 then .error "division by zero" else .ok (wrap (Int.tmod a b))
  | "+" => .ok (wrap (a + b))
  | "-" => .ok (wrap (a - b))
  | "<<" => .ok (wrap (a * Nat.pow 2 (b % 64).toNat))
  | ">>" => .ok (Int.fdiv a (Nat.pow 2 (b % 64).toNat))
  | "<" => .ok (ofBool (a < b))
  | "<=" => .ok (ofBool (a ≤ b))
  | ">" => .ok (ofBool (b < a))
  | ">=" => .ok (ofBool (b ≤ a))
  | "==" => .ok (ofBool (a = b))
  | "!=" => .ok (ofBool (a ≠ b))
  | "&" => .ok (bitwise (· &&& ·) a b)
  | "^" => .ok (bitwise (· ^^^ ·) a b)
  | "|" => .ok (bitwise (· ||| ·) a b)
  | _ => .ok b

/-- The binary operators by precedence, those that bind least first. -/
def levels : List (List String) :=
  [["|"], ["^"], ["&"], ["==", "!="], ["<", "<=", ">", ">="], ["<<", ">>"], ["+", "-"],
    ["*", "/", "%"]]

/-- The operators that assign, with the operations that they perform first. -/
def assignments : List (String × String) :=
  [("=", "="), ("+=", "+"), ("-=", "-"), ("*=", "*"), ("/=", "/"), ("%=", "%"), ("<<=", "<<"),
    (">>=", ">>"), ("&=", "&"), ("^=", "^"), ("|=", "|")]

/-- The name and the assigning operator that come next. -/
def assignmentAhead? : List Token → Option (Bytes × String × List Token)
  | .name name :: .operator operator :: rest =>
      (assignments.lookup operator).map fun operation => (name, operation, rest)
  | _ => none

mutual

/-- An expression, perhaps an assignment.  Where `active` is not given, nothing
is evaluated. -/
def expression : Nat → Bool → Evaluator Int
  | 0, _ => throw "expecting primary"
  | depth + 1, active => do
      match assignmentAhead? (← get).tokens with
      | some (name, operation, rest) =>
          modify ({ · with tokens := rest })
          let right ← expression depth active
          if !active then return right
          let left ← if operation = "=" then pure 0 else valueOf name
          let value ← (apply operation left right : Except String Int)
          assign name value
          return value
      | none => conditional depth active

/-- A condition with its two outcomes, or what stands in its place. -/
def conditional : Nat → Bool → Evaluator Int
  | 0, _ => throw "expecting primary"
  | depth + 1, active => do
      let condition ← disjunction depth active
      match ← acceptOf ["?"] with
      | none => return condition
      | some _ =>
          let yes ← expression depth (active && condition != 0)
          if (← acceptOf [":"]).isNone then throw "expecting ':'"
          let no ← conditional depth (active && condition == 0)
          return if condition != 0 then yes else no

/-- Operands joined by `||`. -/
def disjunction : Nat → Bool → Evaluator Int
  | 0, _ => throw "expecting primary"
  | depth + 1, active => do
      let first ← conjunction depth active
      match ← acceptOf ["||"] with
      | none => return first
      | some _ =>
          let second ← disjunction depth (active && first == 0)
          return ofBool (first != 0 || second != 0)

/-- Operands joined by `&&`. -/
def conjunction : Nat → Bool → Evaluator Int
  | 0, _ => throw "expecting primary"
  | depth + 1, active => do
      let first ← binary depth levels active
      match ← acceptOf ["&&"] with
      | none => return first
      | some _ =>
          let second ← conjunction depth (active && first != 0)
          return ofBool (first != 0 && second != 0)

/-- Operands joined by operators of some levels. -/
def binary : Nat → List (List String) → Bool → Evaluator Int
  | 0, _, _ => throw "expecting primary"
  | depth + 1, [], active => primary depth active
  | depth + 1, level :: tighter, active => do
      binaryRest depth level tighter active (← binary depth tighter active)

/-- Further operands on one level. -/
def binaryRest : Nat → List String → List (List String) → Bool → Int → Evaluator Int
  | 0, _, _, _, left => return left
  | depth + 1, level, tighter, active, left => do
      match ← acceptOf level with
      | none => return left
      | some operator =>
          let right ← binary depth tighter active
          let value ← if active then (apply operator left right : Except String Int) else pure left
          binaryRest depth level tighter active value

/-- An operand. -/
def primary : Nat → Bool → Evaluator Int
  | 0, _ => throw "expecting primary"
  | depth + 1, active => do
      match (← get).tokens with
      | .number value :: rest =>
          modify ({ · with tokens := rest })
          return value
      | .name name :: rest =>
          modify ({ · with tokens := rest })
          if active then valueOf name else return 0
      | _ =>
          match ← acceptOf ["(", "-", "+", "!", "~"] with
          | some "(" =>
              let value ← expression depth active
              if (← acceptOf [")"]).isNone then throw "expecting ')'"
              return value
          | some "-" => return wrap (-(← primary depth active))
          | some "+" => primary depth active
          | some "!" => return ofBool ((← primary depth active) == 0)
          | some "~" => return -(← primary depth active) - 1
          | _ => throw "expecting primary"

end

/-- The value of an expression and its assignments in order, or what is wrong
with it. -/
def evaluate (value? : Bytes → Option Bytes) (text : Bytes) : Except String (Int × Bindings) :=
  let quote (message : String) : String :=
    if message.startsWith "Illegal number" then message
    else "arithmetic expression: " ++ message ++ ": \"" ++ Utf8.lossy text ++ "\""
  let tokens := tokens (text.length + 1) (ofBytes text)
  match (expression (16 * tokens.length + 32) true).run { tokens, value? } with
  | .error message => .error (quote message)
  | .ok (value, state) =>
      if state.tokens = [] then .ok (value, state.assigned.reverse)
      else .error (quote "expecting EOF")

end CompileDriver.Shell.Arithmetic
