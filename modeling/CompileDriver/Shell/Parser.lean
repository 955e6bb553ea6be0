import CompileDriver.Shell.Token

/-!
# Parsing shell scripts

A recursive-descent parser over the tokens of a script.  A script is cut into
the commands of its complete lines, each of which is run before the next one is
looked at; so a mistake in a later line does not keep earlier lines from being
run.  The functions carry a bound on their depth, which the entry point derives
from the number of tokens.
-/

namespace CompileDriver.Shell

/-- What is wrong with a script. -/
structure ScriptError where
  line : Nat
  message : String
  deriving Repr, DecidableEq

/-- The text of a word that has no quoted and no expanded part. -/
def plainText : Word → Option (List Char)
  | [] => some []
  | .literal bytes false :: rest => (plainText rest).map (ofBytes bytes ++ ·)
  | _ => none

/-- The words that have a meaning of their own in front of a command. -/
def reservedWords : List String :=
  ["!", "\x7b", "\x7d", "case", "do", "done", "elif", "else", "esac", "fi", "for", "if", "then",
    "until", "while"]

/-- The commands that come before functions of the same name, so that no function
can have their names. -/
def specialNames : List String :=
  [".", ":", "break", "continue", "eval", "exec", "exit", "export", "local", "readonly", "return",
    "set", "shift", "times", "trap", "unset"]

namespace Token

/-- Whether a token is the unquoted word `text`. -/
def isKeyword (text : String) (token : Token) : Bool :=
  match token.kind with
  | .word word => plainText word = some text.toList
  | _ => false

/-- Whether a token is a control operator. -/
def isOperator (text : String) (token : Token) : Bool :=
  match token.kind with
  | .operator operator => operator = text
  | _ => false

/-- Whether a token is a word. -/
def isWord (token : Token) : Bool :=
  match token.kind with
  | .word _ => true
  | _ => false

/-- Whether a token ends a list of commands. -/
def isClosing (token : Token) : Bool :=
  token.isOperator ")" || token.isOperator ";;" ||
    ["\x7d", "do", "done", "elif", "else", "esac", "fi", "then"].any token.isKeyword

/-- The name of a token in complaints. -/
def describe (token : Token) : String :=
  let quote (text : String) := "\"" ++ text ++ "\""
  match token.kind with
  | .word _ => ((reservedWords.find? token.isKeyword).map quote).getD "word"
  | .redirection _ _ => "redirection"
  | .operator "\n" => "newline"
  | .operator text => quote text
  | .ending | .broken _ => "end of file"

/-- The complaint about a token where another one, or any other one, should
stand. -/
def unexpected (token : Token) (wanted : Option String := none) : ScriptError :=
  match token.kind with
  | .broken message => { line := token.line, message }
  | _ =>
      { line := token.line
        message :=
          "Syntax error: " ++ token.describe ++ " unexpected" ++
            match wanted with
            | some name => " (expecting " ++ name ++ ")"
            | none => "" }

end Token

/-- A parser: it takes tokens from the front and fails at a mistake. -/
abbrev Parser := StateT (List Token) (Except ScriptError)

namespace Parser

/-- The token that comes next. -/
def peek : Parser Token := do
  return (← get).headD { line := 0, kind := .ending }

/-- Go past the next token. -/
def advance : Parser Unit :=
  modify (·.drop 1)

/-- How many tokens are left. -/
def left : Parser Nat := do
  return (← get).length

/-- Go past line ends. -/
def skipLines : Parser Unit :=
  modify (·.dropWhile (·.isOperator "\n"))

/-- Fail at the next token, which should have been another one. -/
def refuse {α : Type} (wanted : Option String := none) : Parser α := do
  throw ((← peek).unexpected wanted)

/-- Go past a control operator, if it comes next. -/
def accept (operator : String) : Parser Bool := do
  let found := (← peek).isOperator operator
  if found then advance
  return found

/-- Go past an unquoted word, if it comes next. -/
def acceptWord (text : String) : Parser Bool := do
  let found := (← peek).isKeyword text
  if found then advance
  return found

/-- Go past a control operator, which has to come next. -/
def expect (operator : String) : Parser Unit := do
  if !(← accept operator) then refuse (some ("\"" ++ operator ++ "\""))

/-- Go past an unquoted word, which has to come next, perhaps behind line
ends. -/
def expectWord (text : String) : Parser Unit := do
  skipLines
  if !(← acceptWord text) then refuse (some ("\"" ++ text ++ "\""))

end Parser

open Parser

/-- An assignment that a word stands for: the name, which is unquoted, and the
word after the equals sign. -/
def assignment? : Word → Option (Bytes × Word)
  | .literal bytes false :: pieces =>
      let chars := ofBytes bytes
      let name := chars.takeWhile (· != '=')
      match chars.dropWhile (· != '=') with
      | _ :: value =>
          if isName name then
            some (toBytes name,
              if value.isEmpty then pieces else .literal (toBytes value) false :: pieces)
          else none
      | [] => none
  | _ => none

/-- Whether a word can say what a number is redirected to: a number or a hyphen,
unless only its expansion tells. -/
def isNumberWord (word : Word) : Bool :=
  match plainText word with
  | some text => text = ['-'] || (!text.isEmpty && text.all Char.isDigit)
  | none => true

/-- The redirection that comes next, if there is one. -/
def parseRedirection : Parser (Option Redirection) := do
  match (← peek).kind with
  | .redirection number target =>
      advance
      let token ← peek
      match token.kind with
      | .word word =>
          if target = .number && !isNumberWord word then
            throw { line := token.line, message := "Syntax error: Bad fd number" }
          advance
          return some { number, target, word }
      | _ => refuse
  | _ => return none

/-- The redirections that come next. -/
def parseRedirections : Nat → Parser (List Redirection)
  | 0 => return []
  | steps + 1 => do
      match ← parseRedirection with
      | none => return []
      | some redirection => return redirection :: (← parseRedirections steps)

/-- The words that come next. -/
def parseWords : Nat → Parser (List Word)
  | 0 => return []
  | steps + 1 => do
      match (← peek).kind with
      | .word word =>
          advance
          return word :: (← parseWords steps)
      | _ => return []

/-- The parts of a simple command, in the order of the script. -/
structure SimpleParts where
  assignments : List (Bytes × Word) := []
  words : List Word := []
  redirections : List Redirection := []

/-- Add words and redirections to a simple command until another token
comes. -/
def parseParts : Nat → SimpleParts → Parser SimpleParts
  | 0, parts => return parts
  | steps + 1, parts => do
      match (← peek).kind with
      | .word word =>
          advance
          match parts.words, assignment? word with
          | [], some assignment =>
              parseParts steps { parts with assignments := parts.assignments ++ [assignment] }
          | _, _ => parseParts steps { parts with words := parts.words ++ [word] }
      | .redirection _ _ =>
          let redirection ← parseRedirection
          parseParts steps
            { parts with redirections := parts.redirections ++ redirection.toList }
      | _ => return parts

/-- A simple command. -/
def parseSimple : Parser Command := do
  let token ← peek
  let parts ← parseParts (← left) {}
  if parts.assignments.isEmpty && parts.words.isEmpty && parts.redirections.isEmpty then refuse
  return .simple token.line parts.assignments parts.words parts.redirections

/-- The word in front of the brackets of a function definition that comes next. -/
def functionWord? : List Token → Option Word
  | { kind := .word word, .. } :: bracket :: _ => if bracket.isOperator "(" then some word else none
  | _ => none

/-- The name that a word gives to a function. -/
def functionName? (word : Word) : Option (List Char) :=
  (plainText word).filter fun name => isName name && !specialNames.contains (String.ofList name)

/-- The name of a function and the brackets behind it. -/
def parseFunctionName (word : Word) : Parser Bytes := do
  let line := (← peek).line
  advance
  expect "("
  if !(← accept ")") then
    let token ← peek
    if token.isWord then
      throw { line := token.line, message := "Syntax error: word unexpected (expecting \")\")" }
    refuse (some "\")\"")
  match functionName? word with
  | some name => return toBytes name
  | none => throw { line, message := "Syntax error: Bad function name" }

/-- The name of a loop variable. -/
def parseVariable : Parser Bytes := do
  let token ← peek
  let name? :=
    match token.kind with
    | .word word => (plainText word).filter isName
    | _ => none
  match name? with
  | some name =>
      advance
      return toBytes name
  | none => throw { line := token.line, message := "Syntax error: Bad for loop variable" }

/-- The words that a loop goes through, by default all arguments. -/
def parseSupply : Parser (List Word) := do
  skipLines
  if ← acceptWord "in" then
    let words ← parseWords (← left)
    if !(← accept ";") && !(← accept "\n") then refuse
    return words
  else
    discard (accept ";")
    return [[.parameter .each .plain true]]

/-- The pattern words of a clause, with bars between them and a bracket behind
them. -/
def parsePatterns : Nat → Parser (List Word)
  | 0 => refuse
  | steps + 1 => do
      match (← peek).kind with
      | .word word =>
          advance
          if ← accept "|" then return word :: (← parsePatterns steps)
          expect ")"
          return [word]
      | _ => refuse (some "\")\"")

mutual

/-- One command without operators around it. -/
def parseCommand : Nat → Parser Command
  | 0 => refuse
  | depth + 1 => do
      match functionWord? (← get) with
      | some word =>
          let name ← parseFunctionName word
          skipLines
          return .function name (← parseCommand depth)
      | none =>
          let token ← peek
          match ← parseCompound depth with
          | none =>
              if reservedWords.any token.isKeyword then refuse
              parseSimple
          | some body =>
              let redirections ← parseRedirections (← left)
              return if redirections.isEmpty then body
                else .redirected token.line body redirections

/-- A command that begins with a reserved word or a bracket, if one comes
next. -/
def parseCompound : Nat → Parser (Option Command)
  | 0 => return none
  | depth + 1 => do
      if ← acceptWord "if" then parseBranch depth
      else if ← acceptWord "while" then parseLoop depth true
      else if ← acceptWord "until" then parseLoop depth false
      else if ← acceptWord "for" then parseFor depth
      else if ← acceptWord "case" then parseChoice depth
      else if ← acceptWord "\x7b" then
        let body ← parseList depth true
        expectWord "\x7d"
        return some body
      else if ← accept "(" then
        let body ← parseList depth true
        skipLines
        expect ")"
        return some (.subshell body)
      else return none

/-- The rest of a conditional after its first word. -/
def parseBranch : Nat → Parser Command
  | 0 => refuse
  | depth + 1 => do
      let condition ← parseList depth true
      expectWord "then"
      let yes ← parseList depth true
      skipLines
      if ← acceptWord "elif" then return .branch condition yes (← parseBranch depth)
      else if ← acceptWord "else" then
        let no ← parseList depth true
        expectWord "fi"
        return .branch condition yes no
      else
        expectWord "fi"
        return .branch condition yes .empty

/-- The rest of a loop after its first word. -/
def parseLoop : Nat → Bool → Parser Command
  | 0, _ => refuse
  | depth + 1, wanted => do
      let condition ← parseList depth true
      expectWord "do"
      let body ← parseList depth true
      expectWord "done"
      return .loop wanted condition body

/-- The rest of a loop over words after its first word. -/
def parseFor : Nat → Parser Command
  | 0 => refuse
  | depth + 1 => do
      let token ← peek
      let name ← parseVariable
      let words ← parseSupply
      expectWord "do"
      let body ← parseList depth true
      expectWord "done"
      return .forEach token.line name words body

/-- The rest of a choice after its first word. -/
def parseChoice : Nat → Parser Command
  | 0 => refuse
  | depth + 1 => do
      let token ← peek
      match token.kind with
      | .word subject =>
          advance
          expectWord "in"
          return .choice token.line subject (← parseClauses depth)
      | _ => refuse (some "word")

/-- The clauses of a choice and the word that ends it. -/
def parseClauses : Nat → Parser (List (List Word × Command))
  | 0 => refuse
  | depth + 1 => do
      skipLines
      if ← acceptWord "esac" then return []
      discard (accept "(")
      let patterns ← parsePatterns (← left)
      let body ← parseList depth false
      skipLines
      if ← acceptWord "esac" then return [(patterns, body)]
      expect ";;"
      return (patterns, body) :: (← parseClauses depth)

/-- Commands joined by pipes. -/
def parsePipes : Nat → Parser Command
  | 0 => refuse
  | depth + 1 => do
      let first ← parseCommand depth
      if ← accept "|" then
        skipLines
        return .pipeline first (← parsePipes depth)
      else return first

/-- Commands joined by pipes, perhaps negated. -/
def parsePipeline : Nat → Parser Command
  | 0 => refuse
  | depth + 1 => do
      if ← acceptWord "!" then return .negation (← parsePipes depth)
      else parsePipes depth

/-- Pipelines joined by `&&` and `||`, after a first one. -/
def parseJoined : Nat → Command → Parser Command
  | 0, first => return first
  | depth + 1, first => do
      if ← accept "&&" then
        skipLines
        let second ← parsePipeline depth
        parseJoined depth (.conjunction first second)
      else if ← accept "||" then
        skipLines
        let second ← parsePipeline depth
        parseJoined depth (.disjunction first second)
      else return first

/-- Joined pipelines with the separator behind them, and whether another command
may follow. -/
def parseItem : Nat → Parser (Command × Bool)
  | 0 => refuse
  | depth + 1 => do
      let joined ← parseJoined depth (← parsePipeline depth)
      if ← accept "&" then return (.background joined, true)
      else if ← accept ";" then return (joined, true)
      else return (joined, (← peek).isOperator "\n")

/-- A list of commands up to a token that ends it.  Where `required`, at least
one command stands in it. -/
def parseList : Nat → Bool → Parser Command
  | 0, _ => refuse
  | depth + 1, required => do
      skipLines
      let token ← peek
      if token.kind = .ending || (!required && token.isClosing) then return .empty
      let (first, more) ← parseItem depth
      if more then return .sequence first (← parseList depth false)
      else return first

end

/-- The commands up to the end of a line. -/
def parseLine (depth : Nat) : Nat → Parser Command
  | 0 => refuse
  | steps + 1 => do
      if (← accept "\n") || (← peek).kind = .ending then return .empty
      let (first, more) ← parseItem depth
      if !more && (← peek).kind ≠ .ending then refuse
      return .sequence first (← parseLine depth steps)

/-- The commands of the lines of a script, and what is wrong behind them.  What is
wrong with a token may also be found by `examine`. -/
def parseLines (examine : Token → Option ScriptError) (depth : Nat) :
    Nat → List Token → List Command × Option ScriptError
  | 0, _ => ([], none)
  | _, [] => ([], none)
  | steps + 1, token :: rest =>
      if token.kind = .ending then ([], none)
      else match (parseLine depth (steps + 1)).run (token :: rest) with
        | .error error => ([], some error)
        | .ok (command, after) =>
            let taken := (token :: rest).take ((token :: rest).length - after.length)
            match taken.findSome? examine with
            | some error => ([], some error)
            | none =>
                let (others, error) := parseLines examine depth steps after
                (command :: others, error)

/-- How deep commands can be nested in so many tokens. -/
def depthFor (tokens : List Token) : Nat :=
  8 * tokens.length + 8

/-- What is wrong with the commands in brackets. -/
def bracketError? (tokens : List Token) : Option ScriptError :=
  let closed := tokens.map fun token =>
    if token.kind = .ending then { token with kind := .operator ")" } else token
  let parser : Parser Unit := do
    discard (parseList (depthFor closed) false)
    skipLines
    expect ")"
  match parser.run closed with
  | .error error => some error
  | .ok _ => none

/-- What is wrong with the scripts whose output a word contains.  Scripts are
nested at most so deep. -/
def scriptError? : Nat → Token → Option ScriptError
  | 0, _ => none
  | depth + 1, token =>
      match token.kind with
      | .word word =>
          word.findSome? fun piece =>
            match piece with
            | .output script backquoted _ =>
                let inner := tokens script
                let error :=
                  if backquoted then
                    (parseLines (scriptError? depth) (depthFor inner) (inner.length + 1) inner).2
                  else (bracketError? inner).or (inner.findSome? (scriptError? depth))
                error.map fun error => { error with line := token.line + error.line - 1 }
            | _ => none
      | _ => none

/-- The commands of a script in the order in which they are run, and what is
wrong with the rest of the script. -/
def parse (script : Bytes) : List Command × Option ScriptError :=
  let tokens := tokens script
  parseLines (scriptError? (script.length + 1)) (depthFor tokens) (tokens.length + 1) tokens

end CompileDriver.Shell
