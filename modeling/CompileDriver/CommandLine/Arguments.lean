import CompileDriver.Frontend.Options

/-!
# The arguments of the command line

Which arguments the command line accepts, and what becomes of them.  Options are
given in a long form, some also in a short one; a value follows as the next
argument or behind an equals sign.  Everything behind `--` is passed on to the
program.

An option that waits for its value, and positional arguments, are settled only
when the next argument is taken in or when the arguments end.  Which of several
errors is reported follows from that order.
-/

namespace CompileDriver.CommandLine

/-- An argument that can be given. -/
inductive Key
  | source
  | release
  | buildOnly
  | codonPath
  | plugin
  | disableOpt
  | lib
  | linkerFlags
  | output
  | verbose
  | debug
  | analyze
  | json
  | versionInfo
  | programArguments
  | help
  | version
  deriving Repr, DecidableEq

/-- What an argument takes. -/
inductive Shape
  /-- No value; it may be given once. -/
  | flag
  /-- A path; it may be given once. -/
  | path
  /-- A text; it may be given once. -/
  | text
  /-- A text each time it is given. -/
  | texts
  /-- No value; it asks for a page of information instead of a run. -/
  | page
  deriving Repr, DecidableEq

/-- The shape of an argument. -/
def Key.shape : Key → Shape
  | .source | .codonPath | .output => .path
  | .plugin | .linkerFlags => .text
  | .disableOpt | .lib | .programArguments => .texts
  | .help | .version => .page
  | _ => .flag

/-- The long forms of the options. -/
def longForms : List (String × Key) :=
  [("release", .release), ("build-only", .buildOnly), ("codon-path", .codonPath),
    ("plugin", .plugin), ("disable-opt", .disableOpt), ("lib", .lib),
    ("linker-flags", .linkerFlags), ("output", .output), ("verbose", .verbose),
    ("debug", .debug), ("analyze", .analyze), ("json", .json), ("version-info", .versionInfo),
    ("help", .help), ("version", .version)]

/-- The short forms of the options. -/
def shortForms : List (Char × Key) :=
  [('o', .output), ('h', .help), ('V', .version)]

/-- Why the arguments do not describe a run. -/
inductive UsageError
  /-- A value is missing or empty where that is not allowed. -/
  | invalidValue
  /-- An argument is not known, or there is one too many. -/
  | unknownArgument
  /-- A text is not valid UTF-8. -/
  | invalidUtf8
  /-- An argument is missing that is required. -/
  | missingRequired
  /-- An argument is given twice that may be given once. -/
  | conflict
  /-- A flag is given a value. -/
  | tooManyValues
  /-- The help page is asked for. -/
  | helpPage
  /-- The version is asked for. -/
  | versionPage
  deriving Repr, DecidableEq

/-- The exit code of a run that ends with the error. -/
def UsageError.exitCode : UsageError → Nat
  | .helpPage | .versionPage => 0
  | _ => 2

/-- The arguments that were taken in, each with its values. -/
abbrev Given := List (Key × List Bytes)

/-- An argument that is not settled yet, with the values that it has so far. -/
structure Pending where
  key : Key
  values : List Bytes := []
  deriving Repr, DecidableEq

/-- The state between two arguments. -/
structure Parser where
  /-- The settled arguments, in the order in which they were settled. -/
  given : Given := []
  pending : Option Pending := none
  /-- Whether the pending argument is an option that waits for its value. -/
  awaiting : Bool := false
  /-- Whether `--` has been seen. -/
  passedOn : Bool := false
  /-- Whether the source has been given. -/
  hasSource : Bool := false
  deriving Repr, DecidableEq

/-- Check a value of an argument. -/
def checkValue (shape : Shape) (value : Bytes) : Except UsageError Unit :=
  match shape with
  | .path => if value = [] then .error .invalidValue else .ok ()
  | .text | .texts => if Utf8.isValid value then .ok () else .error .invalidUtf8
  | .flag | .page => .ok ()

/-- Check the values of an argument in order. -/
def checkValues (shape : Shape) : List Bytes → Except UsageError Unit
  | [] => .ok ()
  | value :: rest =>
      match checkValue shape value with
      | .error error => .error error
      | .ok () => checkValues shape rest

/-- Settle an argument with its values. -/
def settleArgument (given : Given) (key : Key) (values : List Bytes) :
    Except UsageError Given :=
  match key.shape with
  | .page => .error (if key = .help then .helpPage else .versionPage)
  | .flag =>
      if given.any (·.1 = key) then .error .conflict else .ok (given ++ [(key, [])])
  | .texts =>
      if values = [] then .error .invalidValue
      else match checkValues .texts values with
        | .error error => .error error
        | .ok () => .ok (given ++ [(key, values)])
  | shape =>
      if values = [] then .error .invalidValue
      else if given.any (·.1 = key) then .error .conflict
      else match checkValues shape values with
        | .error error => .error error
        | .ok () => .ok (given ++ [(key, values)])

namespace Parser

/-- Settle the argument that is still pending. -/
def settlePending (parser : Parser) : Except UsageError Parser :=
  match parser.pending with
  | none => .ok { parser with awaiting := false }
  | some { key, values } =>
      match settleArgument parser.given key values with
      | .error error => .error error
      | .ok given => .ok { parser with given, pending := none, awaiting := false }

/-- Take in an argument whose values are known. -/
def settle (parser : Parser) (key : Key) (values : List Bytes) : Except UsageError Parser :=
  match parser.settlePending with
  | .error error => .error error
  | .ok parser =>
      match settleArgument parser.given key values with
      | .error error => .error error
      | .ok given => .ok { parser with given }

/-- Take in an option that takes a value: with the value behind it, or waiting
for the next argument. -/
def takeValued (parser : Parser) (key : Key) (attached : Option Bytes) :
    Except UsageError Parser :=
  match attached with
  | some value => parser.settle key [value]
  | none =>
      match parser.settlePending with
      | .error error => .error error
      | .ok parser => .ok { parser with pending := some { key }, awaiting := true }

/-- Whether an argument takes a value. -/
def takesValue (key : Key) : Bool :=
  match key.shape with
  | .flag | .page => false
  | _ => true

/-- Take in an argument in long form. -/
def takeLong (parser : Parser) (name : Bytes) (attached : Option Bytes) :
    Except UsageError Parser :=
  match (longForms.find? fun form => Bytes.ofText form.1 = name).map Prod.snd with
  | none => .error .unknownArgument
  | some key =>
      if takesValue key then parser.takeValued key attached
      else if attached.isSome then .error .tooManyValues
      else parser.settle key []

/-- The value that is attached to an option in short form. -/
def attachedValue : Bytes → Option Bytes
  | [] => none
  | byte :: rest => some (if byte = 0x3D then rest else byte :: rest)

/-- Take in a group of arguments in short form. -/
def takeShort (parser : Parser) : Bytes → Except UsageError Parser
  | [] => .ok parser
  | byte :: rest =>
      match shortForms.lookup (Char.ofNat byte.toNat) with
      | none => .error .unknownArgument
      | some key =>
          if takesValue key then parser.takeValued key (attachedValue rest)
          else match parser.settle key [] with
            | .error error => .error error
            | .ok parser => parser.takeShort rest

/-- Take in a positional argument: the source, or behind `--` an argument of the
program. -/
def takePositional (parser : Parser) (value : Bytes) : Except UsageError Parser :=
  if parser.passedOn then
    match parser.pending with
    | some { key := .programArguments, values } =>
        .ok { parser with pending := some { key := .programArguments, values := values ++ [value] } }
    | _ =>
        match parser.settlePending with
        | .error error => .error error
        | .ok parser =>
            .ok { parser with pending := some { key := .programArguments, values := [value] } }
  else if parser.hasSource then .error .unknownArgument
  else
    match parser.settlePending with
    | .error error => .error error
    | .ok parser =>
        .ok { parser with pending := some { key := .source, values := [value] }, hasSource := true }

/-- Take in a value: of the option that waits for one, else as a positional
argument. -/
def takeValue (parser : Parser) (value : Bytes) : Except UsageError Parser :=
  match parser.awaiting, parser.pending with
  | true, some { key, values } =>
      .ok { parser with pending := some { key, values := values ++ [value] }, awaiting := false }
  | _, _ => parser.takePositional value

/-- Take in one argument. -/
def take (parser : Parser) (argument : Bytes) : Except UsageError Parser :=
  if parser.passedOn then parser.takePositional argument
  else match argument with
    | [0x2D, 0x2D] => .ok { parser with passedOn := true }
    | 0x2D :: 0x2D :: long =>
        let name := long.takeWhile (· != 0x3D)
        parser.takeLong name ((long.drop name.length).head?.map fun _ => long.drop (name.length + 1))
    | 0x2D :: byte :: rest => parser.takeShort (byte :: rest)
    | _ => parser.takeValue argument

end Parser

/-- The arguments of a run. -/
structure Arguments where
  /-- The source file. -/
  source : Path
  release : Bool := false
  buildOnly : Bool := false
  codonPath : Option Path := none
  plugin : String := "sequre"
  disableOpts : List String := []
  libs : List String := []
  linkerFlags : String := ""
  output : Option Path := none
  verbose : Bool := false
  debug : Bool := false
  analyze : Bool := false
  json : Bool := false
  versionInfo : Bool := false
  programArguments : List String := []
  deriving Repr, DecidableEq

namespace Given

/-- All values of an argument, in order. -/
def values (given : Given) (key : Key) : List Bytes :=
  given.flatMap fun entry => if entry.1 = key then entry.2 else []

/-- Whether an argument was given. -/
def has (given : Given) (key : Key) : Bool :=
  given.any (·.1 = key)

/-- The texts of an argument. -/
def texts (given : Given) (key : Key) : List String :=
  (given.values key).map Utf8.lossy

end Given

/-- The arguments of a run, from those that were given and the environment. -/
def Arguments.ofGiven (given : Given) (codonPath : Option Bytes) : Except UsageError Arguments :=
  match (Given.values given .source).head? with
  | none => .error .missingRequired
  | some source =>
      if Given.has given .json && !Given.has given .analyze then .error .missingRequired
      else .ok
        { source
          release := Given.has given .release
          buildOnly := Given.has given .buildOnly
          codonPath := (Given.values given .codonPath).head?.or codonPath
          plugin := (Given.texts given .plugin).headD "sequre"
          disableOpts := Given.texts given .disableOpt
          libs := Given.texts given .lib
          linkerFlags := (Given.texts given .linkerFlags).headD ""
          output := (Given.values given .output).head?
          verbose := Given.has given .verbose
          debug := Given.has given .debug
          analyze := Given.has given .analyze
          json := Given.has given .json
          versionInfo := Given.has given .versionInfo
          programArguments := Given.texts given .programArguments }

/-- Take in arguments in order, up to the first error. -/
def takeAll (parser : Parser) : List Bytes → Except UsageError Parser
  | [] => parser.settlePending
  | argument :: rest =>
      match parser.take argument with
      | .error error => .error error
      | .ok parser => takeAll parser rest

/-- The arguments of a run.  The installation can also be named by the
environment, but not by an empty value. -/
def parse (environment : Environment) (arguments : List Bytes) : Except UsageError Arguments :=
  match takeAll {} arguments with
  | .error error => .error error
  | .ok { given, .. } =>
      if !Given.has given .codonPath && environment.codonPath = some [] then .error .invalidValue
      else Arguments.ofGiven given environment.codonPath

/-- The options that the arguments of a run choose. -/
def Arguments.options (arguments : Arguments) (host : Host) : Options :=
  let chosen := Options.default host
  { chosen with
    codonPath := arguments.codonPath.getD chosen.codonPath
    plugin := arguments.plugin
    disabledPasses := chosen.disabledPasses ++ arguments.disableOpts
    release := arguments.release
    runAfterBuild := !arguments.buildOnly
    programArguments := arguments.programArguments
    libs := arguments.libs
    linkerFlags := arguments.linkerFlags
    quiet := !arguments.verbose
    outputPath := arguments.output }

end CompileDriver.CommandLine
