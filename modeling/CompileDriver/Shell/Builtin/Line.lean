import CompileDriver.Shell.Builtin.Variable

/-!
# Reading lines into variables

A line is divided at separators among the names of variables.  A backslash joins
lines and keeps a character from separating, unless the line is read as it is.
-/

namespace CompileDriver.Shell.Builtin

/-- A line without its end, a backslash in front of a character making that
character one that does not separate, and the rest; where backslashes have no
meaning all characters are plain.  The outcome also tells whether the line is
complete.  The first argument bounds the number of steps. -/
def takeLine (raw : Bool) : Nat → Bytes → List Mark × Bool × Bytes
  | 0, rest => ([], false, rest)
  | _, [] => ([], false, [])
  | steps + 1, byte :: rest =>
      if byte = Bytes.newline then ([], true, rest)
      else if byte = 0x5C && !raw then
        match rest with
        | [] => ([], false, [])
        | escaped :: rest =>
            if escaped = Bytes.newline then takeLine raw steps rest
            else
              let (marks, complete, rest) := takeLine raw steps rest
              ({ byte := escaped, fixed := true } :: marks, complete, rest)
      else
        let (marks, complete, rest) := takeLine raw steps rest
        ({ byte, fixed := false } :: marks, complete, rest)

/-- Divide a line among so many names.  The last name receives all that is left,
without the separators at the end. -/
def divide (separators : Bytes) : Nat → List Mark → List Bytes
  | 0, _ => []
  | names + 1, marks =>
      let isBlank (mark : Mark) :=
        !mark.fixed && separators.contains mark.byte &&
          (mark.byte = 0x20 || mark.byte = 0x09 || mark.byte = 0x0A)
      let isSeparator (mark : Mark) := !mark.fixed && separators.contains mark.byte
      let marks := marks.dropWhile isBlank
      let field := marks.takeWhile (!isSeparator ·)
      let behind := (marks.drop field.length).dropWhile isBlank
      let rest :=
        if behind.head?.any isSeparator then (behind.drop 1).dropWhile isBlank else behind
      if names = 0 then
        if rest = [] then [Mark.bytes field]
        else [Mark.bytes ((marks.reverse.dropWhile isBlank).reverse)]
      else Mark.bytes field :: divide separators names rest

/-- Read a line into variables. -/
def read : Builtin := fun arguments => do
  let (letters, rest) ← options ['r'] (match arguments with
    | first :: _ :: rest => if first = Bytes.ofText "-p" then rest else arguments
    | _ => arguments)
  if rest = [] then throw "arg count"
  let state ← get
  let input := state.readable 0
  let (marks, complete, left) := takeLine (letters.contains 'r') (input.length + 1) input
  modify (·.setReadable 0 left)
  let values := divide state.separators rest.length marks
  for (name, value) in rest.zip values do
    if !isName (ofBytes name) then throw (textOf name ++ ": bad variable name")
    assign name value
  return if complete then 0 else 1

end CompileDriver.Shell.Builtin
