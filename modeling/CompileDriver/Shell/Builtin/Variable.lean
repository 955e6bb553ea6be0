import CompileDriver.Shell.Builtin.Basic

/-!
# Directories, variables and options of the shell

The commands that change the current directory, the variables, the arguments and
the options of a shell.
-/

namespace CompileDriver.Shell.Builtin

/-! ## Directories -/

/-- Write the path of the current directory. -/
def printDirectory : Builtin := fun arguments => do
  let (letters, _) ← options ['L', 'P'] arguments
  let state ← get
  emitLine "pwd" (if letters.getLast? = some 'P' then state.directory.path else state.path)

/-- The path of a directory that is named from the current one, without `.` and
`..`. -/
def resolvedPath (path directory : Path) : Path :=
  let segments := FileTree.segments (Path.join path directory)
  Place.path <| segments.foldl
    (fun place segment =>
      if segment = [Bytes.dot] then place
      else if segment = [Bytes.dot, Bytes.dot] then place.dropLast
      else place ++ [segment])
    []

/-- Change the current directory.  A hyphen stands for the one before it, whose
path is then written. -/
def changeDirectory : Builtin := fun arguments => do
  let (letters, rest) ← options ['L', 'P'] arguments
  let state ← get
  let argument := rest.headD (state.variableValue "HOME")
  let isBack := argument = Bytes.ofText "-"
  let target := if isBack then state.variableValue "OLDPWD" else argument
  if target = [] then return 0
  let isPhysical := letters.getLast? = some 'P'
  let path := if isPhysical then target else resolvedPath state.path target
  match state.files.entry state.directory target, state.files.entry state.directory path with
  | .ok (_, .directory _ _), .ok (place, .directory _ _) =>
      let path := if isPhysical then place.path else path
      let moved := (state.setVariable (Bytes.ofText "OLDPWD") state.path).setVariable
        (Bytes.ofText "PWD") path
      set { moved with directory := place, path }
      if isBack then emitLine "cd" path else return 0
  | _, _ => throw ("can't cd to " ++ textOf argument)

/-! ## Variables -/

/-- Split an argument into a name and the value behind an equals sign. -/
def splitAssignment (argument : Bytes) : Performing (Bytes × Option Bytes) := do
  let name := argument.takeWhile (· != 0x3D)
  if !isName (ofBytes name) then throw (textOf name ++ ": bad variable name")
  return (name, if name.length < argument.length then some (argument.drop (name.length + 1)) else none)

/-- Set a variable that can be changed. -/
def assign (name value : Bytes) : Performing Unit := do
  if (← get).isFixed name then throw (textOf name ++ ": is read only")
  modify (·.setVariable name value)

/-- Change what is known about variables, some of which are set before. -/
def declare (change : Variable → Variable) : Builtin := fun arguments => do
  let (_, rest) ← options ['p'] arguments
  for argument in rest do
    let (name, value) ← splitAssignment argument
    if let some value := value then assign name value
    modify fun state =>
      state.putVariable name (some (change ((state.bindings.lookup name).getD { value := none })))
  return 0

/-- Make variables local to a function. -/
def makeLocal : Builtin := fun arguments => do
  for argument in arguments do
    let (name, value) ← splitAssignment argument
    let state ← get
    match state.locals with
    | [] => throw "not in a function"
    | scope :: outer =>
        set { state with locals := ((name, state.bindings.lookup name) :: scope) :: outer }
        if let some value := value then assign name value
  if (← get).locals.isEmpty then throw "not in a function"
  return 0

/-- Remove variables or functions. -/
def unset : Builtin := fun arguments => do
  let (letters, rest) ← options ['f', 'v'] arguments
  for name in rest do
    if letters.contains 'f' then
      modify fun state =>
        { state with functions := state.functions.filter fun entry => entry.1 ≠ name }
    else
      if !isName (ofBytes name) then throw (textOf name ++ ": bad variable name")
      if (← get).isFixed name then throw (textOf name ++ ": is read only")
      modify (·.putVariable name none)
  return 0

/-- Drop arguments of the shell. -/
def shift : Builtin := fun arguments => do
  let count ← match arguments with
    | [] => pure 1
    | first :: _ => natural first
  if (← get).arguments.length < count then throw "can't shift that many"
  modify fun state => { state with arguments := state.arguments.drop count }
  return 0

/-- Switch an option by its letter. -/
def switch (isOn : Bool) (letter : Char) : Performing Unit := do
  let change (change : Options → Options) : Performing Unit :=
    modify fun state => { state with options := change state.options }
  match letter with
  | 'e' => change ({ · with exitOnFailure := isOn })
  | 'u' => change ({ · with refuseUnset := isOn })
  | 'x' => change ({ · with trace := isOn })
  | 'f' => change ({ · with noNames := isOn })
  | 'a' => change ({ · with exportAll := isOn })
  | _ =>
      if ! ['b', 'C', 'I', 'm', 'n', 'v', 'E', 'V', 'i', 's', 'p'].contains letter then
        throw ("Illegal option -" ++ letter.toString)

/-- The letters of options by name. -/
def optionNames : List (String × Char) :=
  [("errexit", 'e'), ("nounset", 'u'), ("xtrace", 'x'), ("noglob", 'f'), ("allexport", 'a'),
    ("verbose", 'v'), ("noexec", 'n'), ("noclobber", 'C'), ("monitor", 'm'), ("notify", 'b'),
    ("ignoreeof", 'I'), ("interactive", 'i'), ("stdin", 's'), ("vi", 'V'), ("emacs", 'E'),
    ("privileged", 'p')]

/-- Switch options and, behind them, set the arguments. -/
def setArguments : Builtin
  | [] => return 0
  | argument :: rest => do
      match ofBytes argument with
      | ['-', '-'] =>
          modify fun state => { state with arguments := rest }
          return 0
      | [_, 'o'] =>
          match rest with
          | [] => return 0
          | name :: rest =>
              match optionNames.lookup (textOf name) with
              | none => throw ("Illegal option -o " ++ textOf name)
              | some letter =>
                  switch (argument.head? = some 0x2D) letter
                  setArguments rest
      | sign :: letter :: letters =>
          if sign = '-' || sign = '+' then
            for letter in letter :: letters do
              switch (sign = '-') letter
            setArguments rest
          else
            modify fun state => { state with arguments := argument :: rest }
            return 0
      | ['-'] =>
          if rest ≠ [] then modify fun state => { state with arguments := rest }
          return 0
      | _ =>
          modify fun state => { state with arguments := argument :: rest }
          return 0

end CompileDriver.Shell.Builtin
