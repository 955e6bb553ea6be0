import CompileDriver.Shell.Builtin.Basic

/-!
# Ends, signals and processes

The commands that leave loops, functions and the shell, that send and await
signals, and that wait for processes in the background.
-/

namespace CompileDriver.Shell.Builtin

/-! ## Leaving -/

/-- Leave loops; the last one may go on with its next round. -/
def leaveLoops (goOn : Bool) : Builtin := fun arguments => do
  let count ← match arguments with
    | [] => pure 1
    | first :: _ => do
        let count ← natural first
        if count = 0 then throw "Illegal number: 0"
        pure count
  modify fun state =>
    if state.depth = 0 then state
    else { state with leaving := some (.loops (min count state.depth) goOn) }
  return 0

/-- The status that an argument gives, by default the one of the last
command. -/
def givenStatus (arguments : List Bytes) : Performing Nat := do
  match arguments with
  | [] => return (← get).status
  | first :: _ => return (← natural first) % 256

/-- Leave a function. -/
def leaveFunction : Builtin := fun arguments => do
  let status ← givenStatus arguments
  modify ({ · with leaving := some .function })
  return status

/-- End the shell. -/
def exit : Builtin := fun arguments => do
  let status ← givenStatus arguments
  modify (·.leave (.exited status))
  return status

/-! ## Signals and processes -/

/-- The number of a signal that is given as a number or by name. -/
def signalNumber? (text : String) : Option Nat :=
  match text.toNat? with
  | some number => if number ≤ ExitStatus.lastSignal then some number else none
  | none =>
      if text.toUpper = "EXIT" then some 0
      else (ExitStatus.signalNames.idxOf? ("SIG" ++ text.toUpper)).map (· + 1)

/-- The name of a signal. -/
def signalName (number : Nat) : String :=
  if number = 0 then "EXIT"
  else ((ExitStatus.signalName number).map fun name => (name.drop 3).toString).getD (toString number)

/-- Quote a text so that the shell reads it as one word. -/
def quote (text : Bytes) : Bytes :=
  let marked := text.flatMap fun byte => if byte = 0x27 then Bytes.ofText "'\"'\"'" else [byte]
  Bytes.ofText "'" ++ marked ++ Bytes.ofText "'"

/-- The command that shows the commands for a signal. -/
def trapLine (traps : List (Nat × Bytes)) (signal : Nat) : Bytes :=
  match traps.lookup signal with
  | some action =>
      Bytes.ofText "trap -- " ++ quote action ++ Bytes.ofText (" " ++ signalName signal ++ "\n")
  | none => []

/-- Set the commands for signals, or show all of them. -/
def trap : Builtin := fun arguments => do
  match (← options [] arguments).2 with
  | [] =>
      emit "trap" ((List.range (ExitStatus.lastSignal + 1)).flatMap (trapLine (← get).traps))
  | first :: others =>
      let (action, signals) :=
        if others = [] then (none, [first])
        else (if first = Bytes.ofText "-" then none else some first, others)
      for signal in signals do
        match signalNumber? (textOf signal) with
        | none =>
            modify (·.writeError (Bytes.ofText "trap: " ++ signal ++ Bytes.ofText ": bad trap\n"))
            return 1
        | some number =>
            modify fun state =>
              { state with
                traps :=
                  (action.map (number, ·)).toList ++
                    state.traps.filter fun entry => entry.1 ≠ number }
      return 0

/-- How `kill` is used. -/
def killUsage : String :=
  "Usage: kill [-s sigspec | -signum | -sigspec] [pid | job]... or\nkill -l [exitstatus]"

/-- Write the names of all signals, or of some that are given as statuses. -/
def listSignals : Builtin := fun arguments => do
  match arguments with
  | [] =>
      emit "kill" (Bytes.ofText
        (String.join ("0\n" :: (List.range ExitStatus.lastSignal).map fun signal =>
          signalName (signal + 1) ++ "\n")))
  | argument :: _ =>
      let number ← natural argument
      let signal := if number > 128 then number - 128 else number
      if signal > ExitStatus.lastSignal then
        throw ("invalid signal number or exit status: " ++ textOf argument)
      emitLine "kill" (Bytes.ofText (signalName signal))

/-- The signal that options in front of process numbers ask for, and the numbers;
nothing where signals are to be listed. -/
def killRequest : List Bytes → Performing (Option Nat × List Bytes)
  | [] => throw killUsage
  | argument :: rest =>
      match ofBytes argument with
      | '-' :: first :: letters =>
          match signalNumber? (String.ofList (first :: letters)) with
          | some signal => return (some signal, rest)
          | none =>
              match first :: letters with
              | ['-'] => return (some 15, rest)
              | 'l' :: _ => return (none, rest)
              | 's' :: _ =>
                  match rest with
                  | [] => throw "No arg for -s option"
                  | name :: rest =>
                      match signalNumber? (textOf name) with
                      | some signal => return (some signal, rest)
                      | none => throw ("invalid signal number or name: " ++ textOf name)
              | _ => throw ("Illegal option -" ++ first.toString)
      | _ => return (some 15, argument :: rest)

/-- The process that an argument means: a number, or a job behind a percent
sign. -/
def processOf (argument : Bytes) : Performing Nat := do
  match ofBytes argument with
  | '%' :: digits =>
      match (← get).jobs[Arithmetic.ofDigits 10 digits - 1]? with
      | some job => return job.process
      | none => throw ("No such job: " ++ textOf argument)
  | _ => natural argument

/-- Send a signal to processes. -/
def kill : Builtin := fun arguments => do
  let (signal?, targets) ← killRequest arguments
  match signal? with
  | none => listSignals targets
  | some signal =>
      if targets = [] then throw killUsage
      let mut status := 0
      for target in targets do
        let process ← processOf target
        let state ← get
        let (after, isFound) :=
          if process = shellProcess || process = 0 then (state.post signal, true)
          else state.killJob process signal
        set after
        if !isFound then
          set (after.complain (Bytes.ofText "kill: No such process\n"))
          status := 1
      return status

/-- Wait for all processes in the background, or for some of them. -/
def wait : Builtin := fun arguments => do
  if arguments = [] then
    modify fun state =>
      { state with clock := (state.jobs.map Job.ended).foldl max state.clock }
    return 0
  let mut status := 0
  for argument in arguments do
    let process ← processOf argument
    match (← get).jobs.find? (·.process = process) with
    | none => status := 127
    | some job =>
        modify fun state => (state.showEnd job.status).waitUntil job.ended
        status := State.codeOf job.status
  return status

end CompileDriver.Shell.Builtin
