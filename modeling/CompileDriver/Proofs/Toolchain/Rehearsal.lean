import CompileDriver.Proofs.Driver.Paired
import CompileDriver.Proofs.Host.Echo
import CompileDriver.Proofs.Toolchain.Scripted

/-!
# A script rehearsed twice

What a scripted toolchain does is in its script, but for the programs that it starts, which
read the file tree and the environment.  A script that starts none does the same on all
hosts that look alike, so that its sessions behave alike whatever else the hosts have in
common.
-/

namespace CompileDriver

open Host

/-- The actions of a phase start no program. -/
def ScriptPhase.IsChildless (phase : ScriptPhase) : Prop :=
  ∀ script, ScriptAction.child script ∉ phase.actions

/-- No call of the script starts a program. -/
structure ToolchainScript.IsChildless (script : ToolchainScript) : Prop where
  create : script.create.IsChildless
  plugin : script.plugin.IsChildless
  parse : script.parse.IsChildless
  compile : script.compile.IsChildless
  run : script.run.IsChildless
  link : script.link.IsChildless

namespace Abreast

variable {α β : Type} {one : Action α} {two : Action β}

section

variable {world : Host → Host → Prop} (enduring : Enduring world)

include enduring

/-- What is written leaves hosts akin. -/
theorem speakingAkin (speaks : Speaks (fun _ => False) one fun _ => True)
    (speaksTwin : Speaks (fun _ => False) two fun _ => True) :
    Abreast (Akin world) one two fun _ _ => True :=
  .akin enduring (speaking speaks speaksTwin) (endurance_letsServe.spares speaks.spares)
    (endurance_letsServe.spares speaksTwin.spares)

theorem limitDescriptors (count : Option Nat) :
    Abreast (Akin world) (SystemCall.limitDescriptors count) (SystemCall.limitDescriptors count)
      fun _ _ => True := by
  have limited : endurance.Governs (SystemCall.limitDescriptors count) fun _ => True :=
    .changed fun _ => ⟨.of_same rfl rfl rfl rfl, rfl⟩
  refine .akin enduring (fun one two alike => ⟨?_, trivial⟩) limited limited
  have sameLimit : count.map one.table.numberAbove = count.map two.table.numberAbove := by
    cases count with
    | none => rfl
    | some count => exact congrArg some (DescriptorTable.numberAbove_of_sights alike.sights count)
  have changed : { one.view with numberLimit := count.map one.table.numberAbove } =
      { two.view with numberLimit := count.map two.table.numberAbove } := by
    rw [alike, sameLimit]
  exact changed

end

theorem limitDescriptors_echo {base baseTwin : Host} (count : Option Nat) :
    Abreast (Echoes base baseTwin) (SystemCall.limitDescriptors count)
      (SystemCall.limitDescriptors count) fun _ _ => True := by
  intro one two echoes
  obtain ⟨taken, counted, countedTwin⟩ := echoes.counted
  exact ⟨⟨echoes.takes, echoes.takesTwin, echoes.lineBuffer, taken,
    ⟨counted.grown, counted.delivered⟩, ⟨countedTwin.grown, countedTwin.delivered⟩⟩, trivial⟩

end Abreast

namespace ToolchainScript

/-- Hosts that are related still are when both have written the same, or have limited their
descriptors in the same way. -/
structure Rehearses (related : Host → Host → Prop) : Prop where
  write : ∀ (stream : Stream) bytes,
    Abreast related (stream.write bytes) (stream.write bytes) fun _ _ => True
  limit : ∀ count, Abreast related (SystemCall.limitDescriptors count)
    (SystemCall.limitDescriptors count) fun _ _ => True

theorem rehearses_akin {world : Host → Host → Prop} (enduring : Enduring world) :
    Rehearses (Akin world) where
  write stream bytes :=
    have speaks : Speaks (fun _ => False) (stream.write bytes) fun _ => True :=
      .writeStream (fun _ => not_false) stream bytes
    .speakingAkin enduring speaks speaks
  limit := .limitDescriptors enduring

theorem rehearses_echo {base baseTwin : Host} : Rehearses (Echoes base baseTwin) where
  write := .writeStream_echo
  limit := .limitDescriptors_echo

section

variable (launcher launcherTwin : Launcher) {related : Host → Host → Prop}
  (rehearses : Rehearses related)

include rehearses

theorem act_abreast {actions : List ScriptAction}
    (childless : ∀ script, ScriptAction.child script ∉ actions) :
    Abreast related (act launcher actions) (act launcherTwin actions) Eq := by
  induction actions with
  | nil => exact .value rfl
  | cons action rest ih =>
      have later := ih fun script member => childless script (List.mem_cons_of_mem action member)
      cases action with
      | write stream bytes => exact (rehearses.write stream bytes).bind fun _ _ _ => later
      | child script => exact absurd List.mem_cons_self (childless script)
      | limit count => exact (rehearses.limit (some count)).bind fun _ _ _ => later
      | panic message => exact .value rfl

theorem perform_abreast {phase : ScriptPhase} (childless : phase.IsChildless)
    (call : SessionCall) :
    Abreast related (perform launcher phase call) (perform launcherTwin phase call) Eq := by
  apply (act_abreast launcher launcherTwin rehearses childless).bind
  rintro panic _ rfl
  cases panic with
  | some panic => exact .value rfl
  | none =>
      dsimp only
      split
      · split <;> exact .value rfl
      · exact .value rfl

theorem call_abreast {script : ToolchainScript} (childless : script.IsChildless)
    (call : SessionCall) :
    Abreast related ((script.toolchain launcher).perform () call)
      ((script.toolchain launcherTwin).perform () call) Eq := by
  have called {phase : ScriptPhase} (childless : phase.IsChildless) :
      Abreast related (do return (← perform launcher phase call, ()))
        (do return (← perform launcherTwin phase call, ())) Eq := by
    apply (perform_abreast launcher launcherTwin rehearses childless call).bind
    rintro ended _ rfl
    exact .value rfl
  cases call with
  | create optimisation => exact .value rfl
  | plugin name => exact called childless.plugin
  | parse input => exact called childless.parse
  | compile => exact called childless.compile
  | run arguments libs => exact called childless.run
  | link output options => exact called childless.link

end

/-- Two toolchains that follow the same script behave alike if it starts no program. -/
theorem behavesLike (launcher launcherTwin : Launcher) {script : ToolchainScript}
    (childless : script.IsChildless) {world : Host → Host → Prop} (enduring : Enduring world) :
    (script.toolchain launcher).BehavesLike (script.toolchain launcherTwin) world Eq where
  create settings := by
    apply (perform_abreast launcher launcherTwin (rehearses_akin enduring) childless.create _).bind
    rintro ended _ rfl
    cases ended with
    | panicked panic => exact .value (.error panic)
    | succeeded => exact .value (.ok rfl)
    | failed error => exact .value (.ok rfl)
  call _ _ call _ :=
    (call_abreast launcher launcherTwin (rehearses_akin enduring) childless call).weaken
      fun _ _ same => ⟨congrArg Prod.fst same, rfl⟩
  close _ _ _ := .value trivial
  output _ _ arguments libs _ one two _ takes takesTwin sameBuffer := by
    have echoes := (call_abreast launcher launcherTwin rehearses_echo childless
      (.run arguments libs) one two (.initially takes takesTwin sameBuffer)).1
    exact ⟨echoes.lineBuffer, echoes.delivered⟩

end ToolchainScript

end CompileDriver
