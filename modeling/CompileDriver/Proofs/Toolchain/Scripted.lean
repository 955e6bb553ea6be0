import CompileDriver.Proofs.Driver.Session
import CompileDriver.Proofs.Host.Spawn
import CompileDriver.Toolchain.Scripted

/-!
# Scripts that return

A scripted toolchain whose script never panics returns from every call, and what
its calls do is silent.  A script is thereby enough to rehearse how a request
walks its session.
-/

namespace CompileDriver

/-- The actions of a phase hold no panic. -/
def ScriptPhase.IsCalm (phase : ScriptPhase) : Prop :=
  ∀ message, ScriptAction.panic message ∉ phase.actions

namespace ToolchainScript

variable (launcher : Launcher)

/-- No call of the script panics. -/
structure IsCalm (script : ToolchainScript) : Prop where
  create : script.create.IsCalm
  plugin : script.plugin.IsCalm
  parse : script.parse.IsCalm
  compile : script.compile.IsCalm
  run : script.run.IsCalm
  link : script.link.IsCalm

/-- What a call does is within every discipline that lets programs run, and a
call without a panic in its script returns. -/
theorem governs_act {discipline : Discipline} (letsRun : discipline.LetsRun)
    (actions : List ScriptAction) :
    discipline.Governs (act launcher actions) fun panic =>
      (∀ message, ScriptAction.panic message ∉ actions) → panic = none := by
  induction actions with
  | nil => exact .value fun _ => rfl
  | cons action rest ih =>
      have later : discipline.Governs (act launcher rest) fun panic =>
          (∀ message, ScriptAction.panic message ∉ action :: rest) → panic = none :=
        ih.weaken fun _ known calm =>
          known fun message member => calm message (List.mem_cons_of_mem action member)
      cases action with
      | write stream bytes =>
          have written := letsRun.speaks (Speaks.writeStream (fun _ => not_false) stream bytes)
          exact written.bind fun _ _ => later
      | child script =>
          have ran : discipline.Governs (runChild launcher script) fun _ => True :=
            .look fun host needed => letsRun.inheriting launcher _ host needed
          exact ran.discarded.bind fun _ _ => later
      | limit count =>
          exact (Discipline.Governs.changed fun host => letsRun.numberLimit host _).bind
            fun _ _ => later
      | panic message => exact .value fun calm => absurd List.mem_cons_self (calm message)

theorem governs_perform {discipline : Discipline} (letsRun : discipline.LetsRun)
    (phase : ScriptPhase) (call : SessionCall) :
    discipline.Governs (perform launcher phase call) fun ended =>
      phase.IsCalm → ended.returns = true := by
  refine (governs_act launcher letsRun phase.actions).bind fun panic known => ?_
  cases panic with
  | none =>
      dsimp only
      split
      · split <;> exact .value fun _ => rfl
      · exact .value fun _ => rfl
  | some panic => exact .value fun calm => nomatch known calm

/-- The calls on a session of a scripted toolchain are within every discipline
that lets programs run. -/
theorem governs_call {discipline : Discipline} (letsRun : discipline.LetsRun)
    (script : ToolchainScript) (call : SessionCall) :
    discipline.Governs ((script.toolchain launcher).perform () call) fun reached =>
      script.IsCalm → reached.1.returns = true := by
  have called (phase : ScriptPhase) (isCalm : script.IsCalm → phase.IsCalm) :
      discipline.Governs (do return (← perform launcher phase call, ())) fun reached =>
        script.IsCalm → reached.1.returns = true :=
    (governs_perform launcher letsRun phase call).bind fun _ known =>
      .value fun calm => known (isCalm calm)
  cases call with
  | create optimisation => exact .value fun _ => rfl
  | plugin name => exact called script.plugin IsCalm.plugin
  | parse input => exact called script.parse IsCalm.parse
  | compile => exact called script.compile IsCalm.compile
  | run arguments libs => exact called script.run IsCalm.run
  | link output options => exact called script.link IsCalm.link

/-- So is the creation of a session. -/
theorem governs_create {discipline : Discipline} (letsRun : discipline.LetsRun)
    (script : ToolchainScript) (settings : Settings) :
    discipline.Governs ((script.toolchain launcher).createSession settings) fun outcome =>
      script.IsCalm → ∃ session, outcome = .ok session := by
  refine (governs_perform launcher letsRun script.create _).bind fun ended known => ?_
  cases ended with
  | succeeded => exact .value fun _ => ⟨(), rfl⟩
  | failed error => exact .value fun _ => ⟨(), rfl⟩
  | panicked panic => exact .value fun calm => nomatch known calm.create

/-- The toolchain that follows a script without panics returns. -/
theorem returns_of_isCalm {script : ToolchainScript} (calm : script.IsCalm) :
    (script.toolchain launcher).Returns where
  create settings host := by
    obtain ⟨quiet, returns⟩ := governs_create launcher silence_letsRun script settings host trivial
    exact ⟨returns calm, quiet⟩
  call session call host := by
    obtain ⟨quiet, returns⟩ := governs_call launcher silence_letsRun script call host trivial
    exact ⟨returns calm, quiet⟩
  close session host := .refl host

end ToolchainScript

end CompileDriver
