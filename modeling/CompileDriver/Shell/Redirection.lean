import CompileDriver.Shell.Builtin.Basic
import CompileDriver.Shell.Runner

/-!
# Redirections

Redirections are set up in order before a command is run.  One that cannot be set
up keeps the command from being run.
-/

namespace CompileDriver.Shell

/-- What a redirection to a file cannot be set up for. -/
def openComplaint (path : Bytes) (creating : Bool) (error : OsError) : Bytes :=
  let what := if creating then "cannot create " else "cannot open "
  let why :=
    if error = .notFound ∨ error = .notDirectory then
      if creating then "Directory nonexistent" else "No such file"
    else reason error
  Bytes.ofText what ++ path ++ Bytes.ofText (": " ++ why)

/-- Open a file for reading: where a descriptor for it leads. -/
def openForReading (path : Path) (state : State) : Except OsError (State × Channel) :=
  match state.files.entry state.directory path with
  | .error error => .error error
  | .ok (_, .file content _) =>
      let (state, source) := state.addSource content
      .ok (state, .source source)
  | .ok (_, .zeroDevice) => .ok (state, .zeros)
  | .ok (_, _) => .ok (state, .nowhere)

/-- Set up a redirection.  The outcome tells whether that succeeded; otherwise the
shell has complained. -/
def redirect (substitution : Substitution) (redirection : Redirection) : Expansion Bool := do
  let text ← expandText substitution redirection.word
  let state ← get
  let number := redirection.number
  let give (state : State) (channel : Option Channel) : Expansion Bool := do
    set (state.setChannel number channel)
    return true
  let refuse (complaint : Bytes) : Expansion Bool := do
    modify (·.report complaint)
    return false
  match redirection.target with
  | .here =>
      let (state, source) := state.addSource text
      give state (some (.source source))
  | .number =>
      if text = Bytes.ofText "-" then give state none
      else if text = [] || !(ofBytes text).all Char.isDigit then
        throw (Bytes.ofText "Syntax error: Bad fd number")
      else
        match state.channel? (Arithmetic.ofDigits 10 (ofBytes text)) with
        | some channel => give state (some channel)
        | none => refuse (text ++ Bytes.ofText ": Bad file descriptor")
  | .read =>
      match openForReading text state with
      | .ok (state, channel) => give state (some channel)
      | .error error => refuse (openComplaint text false error)
  | .replace =>
      match state.files.openForWriting state.directory text with
      | .ok (files, place) =>
          give { state with files := files.setContent place [] } (some (.file place))
      | .error error => refuse (openComplaint text true error)
  | .append =>
      match state.files.openForWriting state.directory text with
      | .ok (files, place) => give { state with files } (some (.file place))
      | .error error => refuse (openComplaint text true error)

/-- Set up redirections in order, until one fails. -/
def redirectAll (substitution : Substitution) : List Redirection → Expansion Bool
  | [] => return true
  | redirection :: rest => do
      if ← redirect substitution redirection then redirectAll substitution rest else return false

end CompileDriver.Shell
