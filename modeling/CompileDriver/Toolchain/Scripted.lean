import CompileDriver.Host.Spawn
import CompileDriver.Toolchain.Basic

/-!
# Scripted toolchains

A toolchain that follows a script, for rehearsing requests without a compiler.
For every kind of call the script lists what the call does and how it fails.
-/

namespace CompileDriver

/-- One thing that a scripted call does. -/
inductive ScriptAction
  /-- Write to a standard stream of the process. -/
  | write (stream : Stream) (bytes : Bytes)
  /-- Run a shell script that inherits the standard streams. -/
  | child (script : Bytes)
  /-- Allow only so many further descriptors. -/
  | limit (count : Nat)
  /-- Panic. -/
  | panic (message : String)
  deriving Repr, DecidableEq

/-- What the calls of one kind do. -/
structure ScriptPhase where
  actions : List ScriptAction := []
  /-- The description of the only call that fails; without one, all do. -/
  only : Option String := none
  /-- How the calls fail. -/
  failure : Option ToolchainError := none
  deriving Repr, DecidableEq

/-- A script for all calls. -/
structure ToolchainScript where
  version : String := ""
  create : ScriptPhase := {}
  plugin : ScriptPhase := {}
  parse : ScriptPhase := {}
  compile : ScriptPhase := {}
  run : ScriptPhase := {}
  link : ScriptPhase := {}
  deriving Repr, DecidableEq

namespace ToolchainScript

/-- The invocation of a shell script with inherited streams. -/
def shellInvocation (host : Host) (script : Bytes) : Invocation :=
  { program := Bytes.ofText "/bin/sh"
    name := Bytes.ofText "/bin/sh"
    arguments := [Bytes.ofText "-c", script]
    environment := host.bindings host.environment
    directory := host.directory }

/-- Run a shell script that inherits the standard streams. -/
def runChild (launcher : Launcher) (script : Bytes) : Action (Except OsError ExitStatus) := do
  Spawn.inheriting launcher (shellInvocation (← get) script)

/-- Do what a call is scripted to do, up to its first panic. -/
def act (launcher : Launcher) : List ScriptAction → Action (Option Panic)
  | [] => return none
  | .write stream bytes :: rest => do
      stream.write bytes
      act launcher rest
  | .child script :: rest => do
      discard (runChild launcher script)
      act launcher rest
  | .limit count :: rest => do
      SystemCall.limitDescriptors (some count)
      act launcher rest
  | .panic message :: _ => return some { message := some message }

/-- Perform a call of one kind. -/
def perform (launcher : Launcher) (phase : ScriptPhase) (call : SessionCall) : Action CallEnd := do
  match ← act launcher phase.actions with
  | some panic => return .panicked panic
  | none =>
      match phase.failure with
      | some error =>
          if phase.only.all (· = call.describe) then return .failed error else return .succeeded
      | none => return .succeeded

/-- The toolchain that follows a script. -/
def toolchain (launcher : Launcher) (script : ToolchainScript) : Toolchain Unit where
  version := return script.version
  createSession settings := do
    match ← perform launcher script.create (.create settings.optimisation) with
    | .panicked panic => return .error panic
    | _ => return .ok ()
  loadPlugin _ name := return (← perform launcher script.plugin (.plugin name), ())
  parseFile _ input := return (← perform launcher script.parse (.parse input), ())
  compile _ := return (← perform launcher script.compile .compile, ())
  run _ arguments libs := return (← perform launcher script.run (.run arguments libs), ())
  writeExecutable _ output options :=
    return (← perform launcher script.link (.link output options), ())
  close _ := return ()

end ToolchainScript

end CompileDriver
