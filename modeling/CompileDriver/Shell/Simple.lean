import CompileDriver.Program.Search
import CompileDriver.Shell.Builtin.Line
import CompileDriver.Shell.Builtin.Process
import CompileDriver.Shell.Redirection

/-!
# Simple commands

A simple command is a command of the shell, a function or a program, in this
order of search, except that only special commands come before functions.
Variables that are set in front of it keep their values when it is no command at
all or a special one; otherwise they have them only as long as it runs.
-/

namespace CompileDriver.Shell

/-- The special commands that do not run other commands. -/
def specialBuiltins : List (String × Builtin) :=
  [(":", Builtin.succeed), ("break", Builtin.leaveLoops false),
    ("continue", Builtin.leaveLoops true), ("exit", Builtin.exit),
    ("export", Builtin.declare ({ · with exported := true })), ("local", Builtin.makeLocal),
    ("readonly", Builtin.declare ({ · with fixed := true })), ("return", Builtin.leaveFunction),
    ("set", Builtin.setArguments), ("shift", Builtin.shift), ("times", Builtin.succeed),
    ("trap", Builtin.trap), ("unset", Builtin.unset)]

/-- The special commands that run other commands. -/
def runningBuiltins : List String :=
  ["eval", ".", "exec"]

/-- The other commands of the shell that do not run commands. -/
def plainBuiltins : List (String × Builtin) :=
  [("[", Builtin.bracket), ("alias", Builtin.succeed), ("cd", Builtin.changeDirectory),
    ("chdir", Builtin.changeDirectory), ("echo", Builtin.echo), ("false", Builtin.fail),
    ("hash", Builtin.succeed), ("jobs", Builtin.succeed), ("kill", Builtin.kill),
    ("printf", Builtin.printf), ("pwd", Builtin.printDirectory), ("read", Builtin.read), ("test", Builtin.test), ("true", Builtin.succeed),
    ("ulimit", Builtin.succeed), ("umask", Builtin.succeed), ("unalias", Builtin.succeed),
    ("wait", Builtin.wait)]

/-- The command of a list with a name. -/
def builtin? (builtins : List (String × Builtin)) (name : Bytes) : Option Builtin :=
  (builtins.find? fun entry => Bytes.ofText entry.1 = name).map Prod.snd

/-- Whether a name is in a list. -/
def isNamed (names : List String) (name : Bytes) : Bool :=
  names.any fun other => Bytes.ofText other = name

/-- Whether a name is a special command. -/
def isSpecial (name : Bytes) : Bool :=
  (builtin? specialBuiltins name).isSome || isNamed runningBuiltins name

/-- Whether a name is a command of the shell. -/
def isBuiltin (name : Bytes) : Bool :=
  isSpecial name || (builtin? plainBuiltins name).isSome || isNamed ["command", "type"] name

/-- The list of directories in which a shell looks programs up. -/
def State.searchPath (state : State) : Bytes :=
  (state.valueOf? (Bytes.ofText "PATH")).getD Program.standardSearchPath

/-! ## Programs -/

/-- The streams that a program finds closed. -/
def closedStreams (state : State) : List Stream :=
  [.stdout, .stderr].filter fun stream =>
    match state.channel? stream.number with
    | none | some (.source _) => true
    | _ => false

/-- Note what a program wrote. -/
def noteWrites (state : State) (output : List Written) : State :=
  output.foldl
    (fun (noted : State) write =>
      let later := { noted with clock := state.clock + write.moment }
      { (later.writeTo write.stream.number write.bytes).1 with clock := state.clock })
    state

/-- Start the program at a path; a file that the system cannot run is a script of
the shell. -/
def startFile (start : Launcher) (state : State) (path : Path) (name : Bytes)
    (arguments : List Bytes) : Except OsError Execution :=
  let invocation : Invocation :=
    { program := path, name, arguments, environment := state.environment
      directory := state.directory
      input := state.readable 0
      closed := closedStreams state }
  match start invocation state.files with
  | .error error =>
      if error = .notExecutable then
        let shell := Bytes.ofText "/bin/sh"
        start { invocation with program := shell, name := shell, arguments := path :: arguments }
          state.files
      else .error error
  | outcome => outcome

/-- Start a program at the first of some paths where one can be started.  A path
that leads nowhere does not count as a failure. -/
def startFirst (start : Launcher) (state : State) (name : Bytes) (arguments : List Bytes) :
    List Path → OsError → Except OsError Execution
  | [], error => .error error
  | path :: rest, error =>
      match startFile start state path name arguments with
      | .ok execution => .ok execution
      | .error next =>
          startFirst start state name arguments rest
            (if next = .notFound || next = .notDirectory then error else next)

/-- The errors after which a program counts as missing. -/
def missingErrors : List OsError :=
  [.notFound, .notDirectory, .tooManyLinks, .nameTooLong]

/-- The state after a program could not be started. -/
def afterRefusal (state : State) (name : Bytes) (error : OsError) (caller : Bytes) : State :=
  let why :=
    if error = .notFound || error = .notDirectory then "not found" else reason error
  let isLookedUp := !name.contains Bytes.slash
  (state.complain (caller ++ name ++ Bytes.ofText (": " ++ why))).withStatus
    (if missingErrors.contains error || isLookedUp then 127 else 126)

/-- The state after a program has run. -/
def afterProgram (state : State) (execution : Execution) : State :=
  (noteWrites { state with files := execution.files } execution.output).setReadable 0
    execution.unread |>.waitUntil (state.clock + execution.duration)

/-- Run a program.  One that the shell ends with takes the place of the shell. -/
def runProgram (start : Launcher) (final : Bool) (state : State) (name : Bytes)
    (arguments : List Bytes) (caller : Option Bytes) : State :=
  let prefixed := (caller.map (· ++ Bytes.ofText ": ")).getD []
  match startFirst start state name arguments
      (Program.candidates state.searchPath name) .notFound with
  | .error error => afterRefusal state name error prefixed
  | .ok execution =>
      let after := afterProgram state execution
      if final then
        { after with status := State.codeOf execution.status, traps := [] }.leave execution.status
      else (after.showEnd execution.status).withStatus (State.codeOf execution.status)

/-! ## Commands of the shell -/

/-- Perform a command of the shell.  Where `fatal`, a failure ends the shell. -/
def perform (builtin : Builtin) (fatal : Bool) (name : Bytes) (arguments : List Bytes)
    (state : State) : State :=
  match (builtin arguments).run state with
  | (.ok status, state) => state.withStatus status
  | (.error message, state) =>
      let complained := state.complain (name ++ Bytes.ofText (": " ++ message))
      if fatal then complained.leaveWith 2 else complained.withStatus 2

/-- What a name means as a command, in words. -/
def describeCommand (state : State) (name : Bytes) : Option Bytes :=
  if isNamed reservedWords name then some (Bytes.ofText " is a shell keyword")
  else if (state.functions.lookup name).isSome then some (Bytes.ofText " is a shell function")
  else if isBuiltin name then
    some (Bytes.ofText
      (if isSpecial name then " is a special shell builtin" else " is a shell builtin"))
  else
    (Program.find? state.files state.directory state.searchPath name).map fun path =>
      Bytes.ofText " is " ++ path

/-- Say what names mean as commands. -/
def describeCommands : Builtin := fun names => do
  let mut status := 0
  for name in names do
    match describeCommand (← get) name with
    | some description => discard (Builtin.emitLine "type" (name ++ description))
    | none =>
        discard (Builtin.emitLine "type" (name ++ Bytes.ofText ": not found"))
        status := 127
  return status

/-- Write what the shell would run for names. -/
def locateCommands : Builtin := fun names => do
  let mut status := 0
  for name in names do
    let state ← get
    if isNamed reservedWords name || (state.functions.lookup name).isSome || isBuiltin name then
      discard (Builtin.emitLine "command" name)
    else
      match Program.find? state.files state.directory state.searchPath name with
      | some path => discard (Builtin.emitLine "command" path)
      | none => status := 127
  return status

namespace Runner

variable (runner : Runner)

/-- The deepest nesting of functions. -/
def deepestFunction : Nat := 1000

/-- Call a function. -/
def callFunction (manner : Manner) (body : Command) (arguments : List Bytes) (state : State) :
    State :=
  if deepestFunction ≤ state.locals.length then
    (state.report (Bytes.ofText "Maximum function recursion depth (1000) reached")).leaveWith 2
  else
    let after := runner.run { manner with final := false } body
      { state with arguments, locals := [] :: state.locals, depth := 0 }
    let restored := (after.locals.headD []).foldl
      (fun (state : State) (name, old) => state.putVariable name old) after
    { restored with
      arguments := state.arguments
      locals := state.locals
      depth := state.depth
      leaving := if after.leaving = some .function then none else after.leaving }

/-- Run a text as commands of the shell, in the name of a command. -/
def runNamed (manner : Manner) (caller : Bytes) (script : Bytes) (state : State) : State :=
  let after := runner.runText manner script
    { state with status := 0, line := 1, caller := some caller }
  { after with line := state.line, caller := state.caller }

/-- Run the commands in a file. -/
def runFile (manner : Manner) (arguments : List Bytes) (state : State) : State :=
  let refuse (complaint : Bytes) : State :=
    (state.complain (Bytes.ofText ".: " ++ complaint)).leaveWith 2
  match arguments with
  | [] => state.withStatus 0
  | file :: _ =>
      let paths := (Program.candidates state.searchPath file).filter fun path =>
        file.contains Bytes.slash || state.files.isFile state.directory path
      match paths with
      | [] => refuse (file ++ Bytes.ofText ": not found")
      | path :: _ =>
          match state.files.read state.directory path with
          | .error error => refuse (openComplaint path false error)
          | .ok script =>
              let after := runner.runNamed { manner with final := false } path script state
              if after.leaving = some .function then { after with leaving := none } else after

/-- Run a command that is given as fields, without looking for functions where
`plain`. -/
def runFields (manner : Manner) (plain : Bool) (fields : List Bytes) (state : State) : State :=
  match fields with
  | [] => state.withStatus state.substituted
  | name :: arguments =>
      match builtin? specialBuiltins name with
      | some builtin => perform builtin (!plain) name arguments state
      | none =>
          match if plain then none else state.functions.lookup name with
          | some body => runner.callFunction manner body arguments state
          | none =>
              match builtin? plainBuiltins name with
              | some builtin => perform builtin false name arguments state
              | none =>
                  if name = Bytes.ofText "type" then
                    perform describeCommands false name arguments state
                  else
                    runProgram runner.start (manner.final && state.traps = []) state name
                      arguments state.caller

/-- Run a command that runs other commands, or any other one. -/
def runWords (manner : Manner) (fields : List Bytes) (state : State) : State :=
  match fields with
  | [] => runner.runFields manner false fields state
  | name :: arguments =>
      if name = Bytes.ofText "eval" then
        runner.runNamed { manner with final := false } name
          (List.intercalate [0x20] arguments) state
      else if name = Bytes.ofText "." then runner.runFile manner arguments state
      else if name = Bytes.ofText "exec" then
        match arguments with
        | [] => state.withStatus 0
        | program :: rest =>
            let after := runProgram runner.start true state program rest (some name)
            if after.leaving.isSome then after else after.leaveWith after.status
      else if name = Bytes.ofText "command" &&
          (state.functions.lookup name).isNone then
        match arguments.map textOf with
        | "-v" :: _ => perform locateCommands false name (arguments.drop 1) state
        | "-V" :: _ => perform describeCommands false name (arguments.drop 1) state
        | "-p" :: _ => runner.runFields manner true (arguments.drop 1) state
        | _ => runner.runFields manner true arguments { state with substituted := 0 }
      else runner.runFields manner false fields state

/-- Show a command before it is run. -/
def trace (values : List (Bytes × Bytes)) (fields : List Bytes) (state : State) : State :=
  if state.options.trace && !(values.isEmpty && fields.isEmpty) then
    let words := (values.map fun (name, value) => name ++ 0x3D :: value) ++ fields
    state.writeError (Bytes.ofText "+ " ++ List.intercalate [0x20] words ++ [Bytes.newline])
  else state

/-- Expand the values of assignments and set the variables from left to right. -/
def assignAll : List (Bytes × Word) → Expansion (List (Bytes × Bytes))
  | [] => return []
  | (name, word) :: rest => do
      let value ← expandText runner.substitute word
      setParameter (.named name) value
      return (name, value) :: (← assignAll rest)

/-- Give variables back what they were in an earlier state. -/
def restoreVariables (names : List Bytes) (earlier state : State) : State :=
  names.foldl (fun state name => state.putVariable name (earlier.bindings.lookup name)) state

/-- Whether variables that are set in front of a command keep their values. -/
def keepsAssignments (fields : List Bytes) : Bool :=
  match fields with
  | [] => true
  | name :: _ => isSpecial name

/-- Make variables visible to the programs that a command starts. -/
def exportAll (names : List Bytes) (state : State) : State :=
  names.foldl
    (fun state name =>
      state.putVariable name
        ((state.bindings.lookup name).map ({ · with exported := true })))
    state

/-- The state after a failure, which ends the shell unless it may go on. -/
def afterFailure (manner : Manner) (state : State) : State :=
  if state.status ≠ 0 && state.options.exitOnFailure && !manner.tested && state.leaving.isNone then
    state.leaveWith state.status
  else state

/-- Run a command whose words have been expanded, with its redirections set
up. -/
def runRedirected (manner : Manner) (assignments : List (Bytes × Word)) (fields : List Bytes)
    (before redirected : State) : State :=
  match (runner.assignAll assignments).run redirected with
  | (.error complaint, state) =>
      { state with descriptors := before.descriptors }.report complaint |>.leaveWith 2
  | (.ok values, assigned) =>
      let names := values.map Prod.fst
      let keeps := keepsAssignments fields
      let shown := trace values fields { assigned with descriptors := before.descriptors }
      let ready := { shown with descriptors := assigned.descriptors }
      let ran := runner.runWords manner fields (if keeps then ready else exportAll names ready)
      let isLasting := fields = [Bytes.ofText "exec"]
      let ran := if isLasting then ran else { ran with descriptors := before.descriptors }
      if keeps then ran else restoreVariables names before ran

/-- The text of a word that is not expanded. -/
def literalText? (word : Word) : Option Bytes :=
  word.foldr
    (fun piece text =>
      match piece, text with
      | .literal bytes _, some rest => some (bytes ++ rest)
      | _, _ => none)
    (some [])

/-- The commands whose arguments can be assignments. -/
def declarationNames : List String :=
  ["export", "readonly", "local"]

/-- Whether words are a command whose arguments can be assignments. -/
def isDeclaration (words : List Word) : Bool :=
  match words.map literalText? with
  | some first :: second :: _ =>
      isNamed declarationNames first ||
        (first = Bytes.ofText "command" && second.any (isNamed declarationNames))
  | some first :: _ => isNamed declarationNames first
  | _ => false

/-- The fields of a command.  The value in an assignment is not divided. -/
def expandCommand (words : List Word) : Expansion (List Bytes) := do
  if isDeclaration words then
    let fields ← words.mapM fun word => do
      if (assignment? word).isSome then return [← expandText runner.substitute word]
      else expandFields runner.substitute [word]
    return fields.flatten
  else expandFields runner.substitute words

/-- Run a simple command. -/
def runSimple (manner : Manner) (line : Nat) (assignments : List (Bytes × Word))
    (words : List Word) (redirections : List Redirection) (state : State) : State :=
  let begun := { state with line, substituted := 0 }
  match (runner.expandCommand words).run begun with
  | (.error complaint, state) => (state.report complaint).leaveWith 2
  | (.ok fields, expanded) =>
      match (redirectAll runner.substitute redirections).run expanded with
      | (.error complaint, state) =>
          { state with descriptors := expanded.descriptors }.report complaint |>.leaveWith 2
      | (.ok false, refused) =>
          let refused := { refused with descriptors := expanded.descriptors, status := 2 }
          if fields.head?.any isSpecial then refused.leaveWith 2
          else afterFailure manner refused
      | (.ok true, redirected) =>
          afterFailure manner
            (runner.runRedirected manner assignments fields expanded redirected)

end Runner

end CompileDriver.Shell
