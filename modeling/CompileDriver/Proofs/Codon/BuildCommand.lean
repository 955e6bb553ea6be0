import Mathlib.Tactic.SplitIfs
import CompileDriver.Codon.Session
import CompileDriver.Proofs.Text.Utf8

/-!
# Reading the command line of a build

The command line of a build says which build is meant: it can be read off again, whatever the
names of the plugins, passes and libraries are.  A reader that goes from the left always knows
whether it is at an option or at a value, so that a value may look like an option.

`BuildCommand.decode` accepts exactly the command lines of builds.
-/

namespace CompileDriver.Codon

/-- What the command line of a build says. -/
structure BuildCommand where
  optimisation : Optimisation
  plugins : List String
  disabledPasses : List String
  libs : List String
  linkerFlags : String
  sharedLib : Bool
  /-- The path of the artifact, as it is handed over. -/
  artifact : String
  /-- The path of the source, as it is handed over. -/
  input : String
  deriving Repr, DecidableEq

namespace BuildCommand

/-- The build that a session asks for. -/
def ofSession (session : Session) (input artifact : Path) : BuildCommand where
  optimisation := session.settings.optimisation
  plugins := session.plugins
  disabledPasses := session.settings.disabledPasses
  libs := session.settings.libs
  linkerFlags := session.settings.linkerFlags
  sharedLib := session.settings.sharedLib
  artifact := artifact.display
  input := input.display

/-! ## Writing -/

/-- The option for the linker flags, left out when there are none. -/
def linkerOption (flags : String) : List String :=
  if flags.isEmpty then [] else ["-linker-flags", flags]

/-- The flag for a shared library. -/
def sharedOption (sharedLib : Bool) : List String :=
  if sharedLib then ["-lib"] else []

/-- The command line. -/
def arguments (command : BuildCommand) : List String :=
  "build" :: optimisationFlag command.optimisation ::
    (optionValues "-plugin" command.plugins ++
      (optionValues "-disable-opt" command.disabledPasses ++
        (optionValues "-l" command.libs ++
          (linkerOption command.linkerFlags ++
            (sharedOption command.sharedLib ++ ["-o", command.artifact, command.input])))))

theorem buildArguments_eq (session : Session) (input artifact : Path) :
    buildArguments session.settings session.plugins input artifact =
      (ofSession session input artifact).arguments := by
  simp only [buildArguments, List.append_assoc]
  rfl

/-! ## Reading -/

/-- The level of a flag. -/
def readLevel (flag : String) : Option Optimisation :=
  if flag = "-debug" then some .debug
  else if flag = "-release" then some .release
  else none

/-- The values of an option at the front of some arguments, and the arguments behind them. -/
def readValues (option : String) : List String → List String × List String
  | key :: value :: rest =>
      if key = option then (value :: (readValues option rest).1, (readValues option rest).2)
      else ([], key :: value :: rest)
  | short => ([], short)

/-- The linker flags at the front of some arguments, and the arguments behind them. -/
def readLinkerFlags : List String → String × List String
  | key :: flags :: rest =>
      if key = "-linker-flags" ∧ flags ≠ "" then (flags, rest) else ("", key :: flags :: rest)
  | short => ("", short)

/-- Whether the flag for a shared library is at the front of some arguments, and the arguments
behind it. -/
def readShared : List String → Bool × List String
  | flag :: rest => if flag = "-lib" then (true, rest) else (false, flag :: rest)
  | [] => (false, [])

/-- The paths at the end of a command line. -/
def readPaths : List String → Option (String × String)
  | [option, artifact, input] => if option = "-o" then some (artifact, input) else none
  | _ => none

/-- What a command line says, if it is that of a build. -/
def decode : List String → Option BuildCommand
  | command :: flag :: rest =>
      let (plugins, rest) := readValues "-plugin" rest
      let (disabledPasses, rest) := readValues "-disable-opt" rest
      let (libs, rest) := readValues "-l" rest
      let (linkerFlags, rest) := readLinkerFlags rest
      let (sharedLib, rest) := readShared rest
      match readLevel flag, readPaths rest with
      | some optimisation, some (artifact, input) =>
          if command = "build" then
            some { optimisation, plugins, disabledPasses, libs, linkerFlags, sharedLib, artifact,
                   input }
          else none
      | _, _ => none
  | _ => none

/-! ## What is read is what was written -/

@[simp]
theorem readLevel_flag (level : Optimisation) :
    readLevel (optimisationFlag level) = some level := by
  cases level <;> decide

theorem eq_flag_of_readLevel {flag : String} {level : Optimisation}
    (read : readLevel flag = some level) : flag = optimisationFlag level := by
  unfold readLevel at read
  split_ifs at read with isDebug isRelease
  · cases read
    exact isDebug
  · cases read
    exact isRelease

/-- All values are read if something else comes behind them. -/
theorem readValues_optionValues {option : String} (values : List String) {rest : List String}
    (other : rest.head? ≠ some option) :
    readValues option (optionValues option values ++ rest) = (values, rest) := by
  induction values with
  | nil =>
      change readValues option rest = ([], rest)
      unfold readValues
      split
      · rename_i key value behind
        have different : key ≠ option := fun same => other (congrArg some same)
        rw [if_neg different]
      · rfl
  | cons value values ih =>
      change readValues option (option :: value :: (optionValues option values ++ rest)) = _
      rw [readValues, if_pos rfl, ih]

/-- Nothing is lost when values are read. -/
theorem optionValues_readValues (option : String) (arguments : List String) :
    optionValues option (readValues option arguments).1 ++ (readValues option arguments).2 =
      arguments := by
  fun_induction readValues option arguments with
  | case1 value rest ih =>
      change option :: value :: (optionValues option _ ++ _) = _
      rw [ih]
  | case2 key value rest different => rfl
  | case3 short _ => rfl

theorem readLinkerFlags_linkerOption (flags : String) {rest : List String}
    (other : rest.head? ≠ some "-linker-flags") :
    readLinkerFlags (linkerOption flags ++ rest) = (flags, rest) := by
  unfold linkerOption
  split_ifs with isEmpty
  · rw [String.isEmpty_iff] at isEmpty
    subst isEmpty
    change readLinkerFlags rest = ("", rest)
    unfold readLinkerFlags
    split
    · rename_i key given behind
      have different : key ≠ "-linker-flags" := fun same => other (congrArg some same)
      rw [if_neg fun both => different both.1]
    · rfl
  · have given : flags ≠ "" := fun same => isEmpty (String.isEmpty_iff.mpr same)
    change readLinkerFlags ("-linker-flags" :: flags :: rest) = _
    rw [readLinkerFlags, if_pos ⟨rfl, given⟩]

theorem linkerOption_readLinkerFlags (arguments : List String) :
    linkerOption (readLinkerFlags arguments).1 ++ (readLinkerFlags arguments).2 = arguments := by
  unfold readLinkerFlags
  split
  · rename_i key flags rest
    split_ifs with both
    · obtain ⟨rfl, given⟩ := both
      have notEmpty : ¬ flags.isEmpty = true := fun same => given (String.isEmpty_iff.mp same)
      rw [linkerOption, if_neg notEmpty]
      rfl
    · rfl
  · rfl

theorem readShared_sharedOption (sharedLib : Bool) {rest : List String}
    (other : rest.head? ≠ some "-lib") :
    readShared (sharedOption sharedLib ++ rest) = (sharedLib, rest) := by
  cases sharedLib with
  | true => rfl
  | false =>
      cases rest with
      | nil => rfl
      | cons flag behind =>
          have different : flag ≠ "-lib" := fun same => other (congrArg some same)
          exact if_neg different

theorem sharedOption_readShared (arguments : List String) :
    sharedOption (readShared arguments).1 ++ (readShared arguments).2 = arguments := by
  cases arguments with
  | nil => rfl
  | cons flag rest =>
      rw [readShared]
      split_ifs with isShared
      · rw [isShared]
        rfl
      · rfl

theorem eq_of_readPaths {arguments : List String} {artifact input : String}
    (read : readPaths arguments = some (artifact, input)) :
    arguments = ["-o", artifact, input] := by
  unfold readPaths at read
  split at read
  · split_ifs at read with isOption
    cases read
    rw [isOption]
  · cases read

/-! ## Command lines -/

/-- What comes first behind the values of another option. -/
theorem head?_optionValues_append {option other : String} (values : List String)
    {rest : List String} (different : option ≠ other) (behind : rest.head? ≠ some other) :
    (optionValues option values ++ rest).head? ≠ some other := by
  cases values with
  | nil => exact behind
  | cons value values => exact fun same => different (Option.some.inj same)

theorem head?_linkerOption_append {other : String} (flags : String) {rest : List String}
    (different : "-linker-flags" ≠ other) (behind : rest.head? ≠ some other) :
    (linkerOption flags ++ rest).head? ≠ some other := by
  unfold linkerOption
  split_ifs
  · exact behind
  · exact fun same => different (Option.some.inj same)

theorem head?_sharedOption_append {other : String} (sharedLib : Bool) {rest : List String}
    (different : "-lib" ≠ other) (behind : rest.head? ≠ some other) :
    (sharedOption sharedLib ++ rest).head? ≠ some other := by
  cases sharedLib with
  | false => exact behind
  | true => exact fun same => different (Option.some.inj same)

theorem decode_arguments (command : BuildCommand) : decode command.arguments = some command := by
  obtain ⟨optimisation, plugins, disabledPasses, libs, linkerFlags, sharedLib, artifact, input⟩ :=
    command
  -- each part is read up to the next one, which starts with another option
  have paths {other : String} (different : "-o" ≠ other) :
      ["-o", artifact, input].head? ≠ some other := fun same => different (Option.some.inj same)
  have shared {other : String} (isOther : "-lib" ≠ other) (different : "-o" ≠ other) :=
    head?_sharedOption_append sharedLib isOther (paths different)
  have linked {other : String} (isOther : "-linker-flags" ≠ other) (notShared : "-lib" ≠ other)
      (different : "-o" ≠ other) :=
    head?_linkerOption_append linkerFlags isOther (shared notShared different)
  simp only [decode, arguments]
  rw [readValues_optionValues plugins
      (head?_optionValues_append _ (by decide) (head?_optionValues_append _ (by decide)
        (linked (by decide) (by decide) (by decide)))),
    readValues_optionValues disabledPasses
      (head?_optionValues_append _ (by decide) (linked (by decide) (by decide) (by decide))),
    readValues_optionValues libs (linked (by decide) (by decide) (by decide)),
    readLinkerFlags_linkerOption linkerFlags (shared (by decide) (by decide)),
    readShared_sharedOption sharedLib (paths (by decide)), readLevel_flag]
  rfl

theorem eq_arguments_of_decode {arguments : List String} {command : BuildCommand}
    (decoded : decode arguments = some command) : arguments = command.arguments := by
  unfold decode at decoded
  split at decoded
  · rename_i name flag rest
    dsimp only at decoded
    split at decoded
    · rename_i level artifact input isLevel isPaths
      split_ifs at decoded with isBuild
      cases decoded
      rw [BuildCommand.arguments, isBuild, eq_flag_of_readLevel isLevel, ← eq_of_readPaths isPaths,
        sharedOption_readShared, linkerOption_readLinkerFlags, optionValues_readValues,
        optionValues_readValues, optionValues_readValues]
    · cases decoded
  · cases decoded

/-- Exactly the command lines of builds are accepted, each with what it says. -/
theorem decode_eq_some_iff {arguments : List String} {command : BuildCommand} :
    decode arguments = some command ↔ arguments = command.arguments :=
  ⟨eq_arguments_of_decode, fun same => same ▸ decode_arguments command⟩

/-- Values may look like options. -/
example :
    decode ["build", "-debug", "-plugin", "-o", "-l", "-lib", "-l", "", "-o", "-plugin", "-l"] =
      some
        { optimisation := .debug, plugins := ["-o"], disabledPasses := [], libs := ["-lib", ""],
          linkerFlags := "", sharedLib := false, artifact := "-plugin", input := "-l" } := by
  decide

/-- The command line of a build can be read: it is accepted with what its session asks for, so
that sessions have the same command line exactly if they ask for the same.  It ends in the
artifact and in the source, and each of these paths is handed over unchanged exactly if it
encodes some text. -/
theorem build_commands_can_be_read (session other : Session) (input artifact : Path)
    (otherInput otherArtifact : Path) :
    decode (buildArguments session.settings session.plugins input artifact) =
        some (ofSession session input artifact) ∧
      (buildArguments session.settings session.plugins input artifact =
          buildArguments other.settings other.plugins otherInput otherArtifact ↔
        ofSession session input artifact = ofSession other otherInput otherArtifact) ∧
      (∃ front, buildArguments session.settings session.plugins input artifact =
        front ++ [artifact.display, input.display]) ∧
      (Bytes.ofText artifact.display = artifact ↔ ∃ text, Bytes.ofText text = artifact) ∧
      (Bytes.ofText input.display = input ↔ ∃ text, Bytes.ofText text = input) := by
  have decoded (session : Session) (input artifact : Path) :
      decode (buildArguments session.settings session.plugins input artifact) =
        some (ofSession session input artifact) := by
    rw [buildArguments_eq, decode_arguments]
  refine ⟨decoded session input artifact, ⟨fun same => ?_, fun same => ?_⟩, ?_,
    Utf8.ofText_lossy_iff, Utf8.ofText_lossy_iff⟩
  · have both := decoded session input artifact
    rw [same, decoded] at both
    exact (Option.some.inj both).symm
  · rw [buildArguments_eq, buildArguments_eq, same]
  · exact ⟨_ ++ ["-o"], (List.append_assoc _ ["-o"] _).symm⟩

end BuildCommand

end CompileDriver.Codon
