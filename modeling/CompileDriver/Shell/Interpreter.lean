import CompileDriver.Shell.Simple

/-!
# Running shell scripts

An interpreter for parsed scripts.  Commands are nested only so deep, and loops
have only so many rounds; a script that goes further counts as one whose output
nobody reads any more.  Programs are started by a launcher that the interpreter
is given.
-/

namespace CompileDriver.Shell

/-- How many rounds a loop can have. -/
def mostRounds : Nat := 100000

/-- How deep commands can be nested. -/
def deepestNesting : Nat := 4000

/-- A state in which the shell has found that nobody reads its output. -/
def State.giveUp (state : State) : State :=
  state.leave (.signalled 13)

/-- Go through rounds, at most so many, as long as they ask for another one. -/
def State.repeatRounds (round : State → State × Bool) : Nat → State → State
  | 0, state => state.giveUp
  | rounds + 1, state =>
      match round state with
      | (state, true) => repeatRounds round rounds state
      | (state, false) => state

/-- What is left to leave after a round of a loop, and whether the loop goes
on. -/
def State.endRound (state : State) : State × Bool :=
  match state.leaving with
  | none => (state, true)
  | some (.loops count goOn) =>
      if count ≤ 1 then ({ state with leaving := none }, goOn)
      else ({ state with leaving := some (.loops (count - 1) goOn) }, false)
  | some _ => (state, false)

namespace Runner

variable (runner : Runner)

/-- Run a loop whose body runs as long as a condition has the wanted outcome.
The status is that of the last round. -/
def runLoop (manner : Manner) (wanted : Bool) (condition body : Command) (state : State) : State :=
  let bodyManner := { manner with final := false }
  let round (state : State) : State × Bool :=
    let (tried, goesOn) :=
      (runner.run { tested := true } condition state).endRound
    if !goesOn then ({ tried with status := state.status }, false)
    else if (tried.status = 0) = wanted then (runner.run bodyManner body tried).endRound
    else ({ tried with status := state.status }, false)
  let after := State.repeatRounds round mostRounds { state with depth := state.depth + 1, status := 0 }
  { after with depth := state.depth }

/-- Run a body once for each of some values of a variable. -/
def runForEach (manner : Manner) (name : Bytes) (body : Command) :
    List Bytes → State → State
  | [], state => state
  | value :: rest, state =>
      if state.isFixed name then
        (state.report (name ++ Bytes.ofText ": is read only")).leaveWith 2
      else
        match (runner.run { manner with final := false } body
            (state.setVariable name value)).endRound with
        | (state, true) => runForEach manner name body rest state
        | (state, false) => state

/-- The first clause of a choice one of whose patterns matches a text. -/
def selectClause (subject : Bytes) : List (List Word × Command) → Expansion (Option Command)
  | [] => return none
  | (patterns, body) :: rest => do
      let isMatch ← patterns.anyM fun word => do
        return (← expandPattern runner.substitute word).isMatch subject
      if isMatch then return some body else selectClause subject rest

/-- Run the commands of a pipeline, each in a copy of the shell. -/
def runPipeline (manner : Manner) (first second : Command) (state : State) : State :=
  let (state, pipe) := state.makePipe
  let copyManner := { manner with final := true }
  let left := runner.waitForCopy state fun copy =>
    runner.run copyManner first (copy.setChannel 1 (some (.pipe pipe)))
  if left.leaving.isSome then left
  else
    let (between, bytes) := left.drainPipe pipe
    let (between, source) := between.addSource bytes
    runner.waitForCopy { between with status := state.status } fun copy =>
      runner.run copyManner second (copy.setChannel 0 (some (.source source)))

/-- Run a command with redirections around it. -/
def runEnclosed (manner : Manner) (line : Nat) (body : Command) (redirections : List Redirection)
    (state : State) : State :=
  match (redirectAll runner.substitute redirections).run { state with line } with
  | (.error complaint, after) =>
      { after with descriptors := state.descriptors }.report complaint |>.leaveWith 2
  | (.ok false, after) => { after with descriptors := state.descriptors, status := 2 }
  | (.ok true, redirected) =>
      { runner.run { manner with final := false } body redirected with
        descriptors := state.descriptors }

/-- Run a command in a copy of the shell, in which redirections are set up
first. -/
def runSubshell (manner : Manner) (body : Command) (redirections : List Redirection)
    (state : State) : State :=
  afterFailure manner <| runner.waitForCopy state fun copy =>
    match (redirectAll runner.substitute redirections).run copy with
    | (.error complaint, copy) => (copy.report complaint).leaveWith 2
    | (.ok false, copy) => copy.leaveWith 2
    | (.ok true, copy) => runner.run { manner with final := true } body copy

/-- Run a command; the commands in it are run by the runner.  A shell that is
about to leave something runs nothing. -/
def runCommand (manner : Manner) (command : Command) (state : State) : State :=
  let tested := { manner with tested := true, final := false }
  let between := { manner with final := false }
  match command with
  | .empty => state
  | .simple line assignments words redirections =>
      runner.runSimple manner line assignments words redirections state
  | .sequence first second =>
      if second matches .empty then runner.run manner first state
      else runner.run manner second (runner.run between first state)
  | .conjunction first second =>
      let after := runner.run tested first state
      if after.status = 0 then runner.run manner second after else after
  | .disjunction first second =>
      let after := runner.run tested first state
      if after.status = 0 then after else runner.run manner second after
  | .negation body =>
      let after := runner.run tested body state
      if after.leaving.isSome then after
      else after.withStatus (if after.status = 0 then 1 else 0)
  | .pipeline first second => afterFailure manner (runner.runPipeline manner first second state)
  | .branch condition yes no =>
      let after := runner.run tested condition state
      if after.leaving.isSome then after
      else if after.status = 0 then runner.run manner yes after
      else runner.run manner no (after.withStatus 0)
  | .loop wanted condition body => runner.runLoop manner wanted condition body state
  | .forEach line name words body =>
      match (expandFields runner.substitute words).run { state with line } with
      | (.error complaint, state) => (state.report complaint).leaveWith 2
      | (.ok values, expanded) =>
          let after := runner.runForEach manner name body values
            { expanded with depth := state.depth + 1, status := 0 }
          { after with depth := state.depth }
  | .choice line subject clauses =>
      let select : Expansion (Option Command) := do
        runner.selectClause (← expandText runner.substitute subject) clauses
      match select.run { state with line } with
      | (.error complaint, state) => (state.report complaint).leaveWith 2
      | (.ok none, state) => state.withStatus 0
      | (.ok (some body), selected) => runner.run manner body (selected.withStatus 0)
  | .subshell body => runner.runSubshell manner body [] state
  | .background body => runner.inBackground state (runner.run { final := true } body)
  | .redirected line (.subshell body) redirections =>
      runner.runSubshell manner body redirections { state with line }
  | .redirected line body redirections =>
      runner.runEnclosed manner line body redirections state
  | .function name body =>
      { state with
        functions := (name, body) :: state.functions.filter fun entry => entry.1 ≠ name
        status := 0 }

end Runner

/-- Run a command in which commands are nested at most so deep. -/
def run (start : Launcher) : Nat → Manner → Command → State → State
  | 0, _, _, state => state.giveUp
  | depth + 1, manner, command, state =>
      if state.leaving.isSome then state
      else
        let runner : Runner := { start, run := run start depth }
        runner.runPending (runner.runCommand manner command state)

/-- What runs the commands of a shell. -/
def runnerFor (start : Launcher) : Runner :=
  { start, run := run start deepestNesting }

/-- What a shell did that ended in a state. -/
def executionOf (state : State) (status : ExitStatus) : Execution :=
  let output := (state.writes.reverse.filterMap fun write =>
    match write.channel with
    | .stream stream => some { stream, bytes := write.bytes, moment := write.moment }
    | _ => none)
  { output := output.mergeSort fun first second => first.moment ≤ second.moment
    files := state.files
    status
    unread := state.sources.headD []
    duration := state.clock }

/-- Run a whole script in a shell. -/
def runScript (start : Launcher) (script : Bytes) (state : State) : Execution :=
  let runner := runnerFor start
  let (last, status) := runner.finish (runner.runText {} script state)
  executionOf last status

/-- The variables of a shell that is started in an environment. -/
def initialVariables (environment : List (Bytes × Bytes)) (directory : Path) :
    List (Bytes × Variable) :=
  let own := [(Bytes.ofText "PATH", { value := some Program.standardSearchPath, exported := true }),
    (Bytes.ofText "PWD", { value := some directory }),
    (Bytes.ofText "IFS", { value := some [0x20, 0x09, 0x0A] }),
    (Bytes.ofText "OPTIND", { value := some (Bytes.ofText "1") }),
    (Bytes.ofText "PPID", { value := some (Bytes.ofText "1") })]
  let given := environment.reverse.map fun (name, value) =>
    (name, { value := some value, exported := true })
  given ++ own.filter fun entry => (environment.lookup entry.1).isNone

/-- The state of a shell when it is started. -/
def State.initial (invocation : Invocation) (files : FileTree) : State :=
  { name := invocation.name
    bindings := initialVariables invocation.environment invocation.directory.path
    files
    directory := invocation.directory
    path := invocation.directory.path
    descriptors := (0, .source 0) ::
      ([Stream.stdout, Stream.stderr].filter (!invocation.closed.contains ·)).map fun stream =>
        (stream.number, .stream stream)
    sources := [invocation.input] }

/-- What a shell runs. -/
inductive ScriptOrigin
  /-- The first argument. -/
  | argument
  /-- The standard input. -/
  | input
  /-- The file that the first argument names, if there is one, else the standard
  input. -/
  | file
  deriving Repr, DecidableEq

/-- Take the options from the arguments of a shell: where its script comes from,
and the other arguments. -/
def takeOptions (origin : ScriptOrigin) : List Bytes → Performing (ScriptOrigin × List Bytes)
  | [] => return (origin, [])
  | argument :: rest => do
      match ofBytes argument with
      | ['-'] | ['-', '-'] => return (origin, rest)
      | [sign, 'o'] =>
          match rest with
          | name :: rest =>
              match Builtin.optionNames.lookup (textOf name) with
              | some letter =>
                  Builtin.switch (sign = '-') letter
                  takeOptions origin rest
              | none => throw ("Illegal option -o " ++ textOf name)
          | [] => return (origin, [])
      | sign :: letters =>
          if letters = [] || (sign ≠ '-' && sign ≠ '+') then return (origin, argument :: rest)
          for letter in letters.filter (· ≠ 'c') do
            Builtin.switch (sign = '-') letter
          takeOptions
            (if letters.contains 'c' then .argument
              else if letters.contains 's' && origin ≠ .argument then .input
              else origin)
            rest
      | [] => return (origin, argument :: rest)

/-- Run a shell as a program. -/
def runShell (start : Launcher) (invocation : Invocation) (files : FileTree) : Execution :=
  let initial := { State.initial invocation files with line := 0 }
  let refuse (text : Bytes) : Execution :=
    executionOf (initial.complain text) (.exited 2)
  let fromInput (state : State) (arguments : List Bytes) : Execution :=
    runScript start (state.readable 0)
      { state.setReadable 0 [] with arguments, line := 1 }
  match (takeOptions .file invocation.arguments).run initial with
  | (.error message, _) => refuse (Bytes.ofText message)
  | (.ok (.argument, []), _) => refuse (Bytes.ofText "-c requires an argument")
  | (.ok (.argument, [script]), state) => runScript start script { state with line := 1 }
  | (.ok (.argument, script :: name :: arguments), state) =>
      runScript start script { state with name, arguments, line := 1 }
  | (.ok (.input, arguments), state) => fromInput state arguments
  | (.ok (.file, []), state) => fromInput state []
  | (.ok (.file, file :: arguments), state) =>
      match files.read invocation.directory file with
      | .ok script =>
          runScript start script { state with name := file, arguments, line := 1 }
      | .error error =>
          if error = .isDirectory then executionOf state (.exited 0)
          else refuse (openComplaint file false error)

end CompileDriver.Shell
