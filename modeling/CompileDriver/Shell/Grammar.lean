import CompileDriver.Bytes

/-!
# The shell language

The commands of the shell language in which compilers and programs are
scripted: simple commands with assignments and redirections, lists, pipelines,
conditionals, loops and functions.  Words are made of literal and expanded
pieces, some of them quoted.

A substitution keeps the script, the expression or the word inside it as text,
which is read when the word is expanded.
-/

namespace CompileDriver.Shell

/-- A value that a word can refer to. -/
inductive Parameter
  /-- A variable. -/
  | named (name : Bytes)
  /-- The name of the shell, or one of its arguments. -/
  | position (number : Nat)
  /-- The number of arguments. -/
  | count
  /-- All arguments, as one text. -/
  | joined
  /-- All arguments, one by one. -/
  | each
  /-- The status of the last command. -/
  | status
  /-- The number of the shell's own process. -/
  | process
  /-- The number of the process that was started last in the background. -/
  | background
  /-- The options of the shell. -/
  | options
  deriving Repr, DecidableEq

/-- Which values count as missing. -/
inductive Absence
  /-- The parameter is not set. -/
  | unset
  /-- The parameter is not set or empty. -/
  | unsetOrEmpty
  deriving Repr, DecidableEq

/-- What is made of the value of a parameter. -/
inductive Modifier
  /-- The value itself. -/
  | plain
  /-- The length of the value. -/
  | length
  /-- A word in place of a missing value. -/
  | orElse (missing : Absence) (word : Bytes)
  /-- A word in place of a missing value, which the parameter is set to. -/
  | orAssign (missing : Absence) (word : Bytes)
  /-- A complaint about a missing value. -/
  | orFail (missing : Absence) (word : Bytes)
  /-- A word in place of a value that is not missing. -/
  | ifPresent (missing : Absence) (word : Bytes)
  /-- The value without the part at its start or its end that matches a
  pattern. -/
  | trim (atEnd longest : Bool) (pattern : Bytes)
  /-- Something that does not exist; the mistake is noticed when the word is
  expanded. -/
  | unknown
  deriving Repr, DecidableEq

/-- A piece of a word. -/
inductive Piece
  | literal (bytes : Bytes) (quoted : Bool)
  | parameter (parameter : Parameter) (modifier : Modifier) (quoted : Bool)
  /-- What a script writes to its standard output; the script stands between
  backquotes or in brackets. -/
  | output (script : Bytes) (backquoted quoted : Bool)
  /-- The value of an arithmetic expression. -/
  | arithmetic (expression : Bytes) (quoted : Bool)
  deriving Repr, DecidableEq

/-- A word before expansion. -/
abbrev Word := List Piece

/-- What a descriptor number is redirected to. -/
inductive RedirectionTarget
  /-- A file, whose content is replaced. -/
  | replace
  /-- A file, to which is added. -/
  | append
  /-- A file, which is read. -/
  | read
  /-- What another number refers to. -/
  | number
  /-- A text that stands in the script. -/
  | here
  deriving Repr, DecidableEq

/-- A redirection of a descriptor number. -/
structure Redirection where
  number : Nat
  target : RedirectionTarget
  /-- The file, the other number, or the text. -/
  word : Word
  deriving Repr, DecidableEq

/-- A command. -/
inductive Command
  /-- A command that does nothing. -/
  | empty
  /-- A command name with its arguments, on a line of the script. -/
  | simple (line : Nat) (assignments : List (Bytes × Word)) (words : List Word)
      (redirections : List Redirection)
  /-- One command after the other. -/
  | sequence (first second : Command)
  /-- The second command only if the first one succeeds. -/
  | conjunction (first second : Command)
  /-- The second command only if the first one fails. -/
  | disjunction (first second : Command)
  /-- Success where the command fails. -/
  | negation (command : Command)
  /-- The output of the first command is the input of the second one. -/
  | pipeline (first second : Command)
  /-- One of two commands, after a condition. -/
  | branch (condition yes no : Command)
  /-- A command again and again, as long as a condition has the wanted
  outcome. -/
  | loop (wanted : Bool) (condition body : Command)
  /-- A command once for every field of some words. -/
  | forEach (line : Nat) (name : Bytes) (words : List Word) (body : Command)
  /-- The first command one of whose patterns matches a word. -/
  | choice (line : Nat) (subject : Word) (clauses : List (List Word × Command))
  /-- A command in a copy of the shell. -/
  | subshell (body : Command)
  /-- A command in a copy of the shell that is not waited for. -/
  | background (body : Command)
  /-- A command with redirections around it. -/
  | redirected (line : Nat) (body : Command) (redirections : List Redirection)
  /-- The definition of a function. -/
  | function (name : Bytes) (body : Command)
  deriving Repr

end CompileDriver.Shell
