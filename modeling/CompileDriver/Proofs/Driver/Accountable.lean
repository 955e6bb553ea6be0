import CompileDriver.Proofs.Driver.Tidy
import CompileDriver.Proofs.Host.Deeds

/-!
# Toolchains that can be held to account

A toolchain is accountable if it can be told of each of its calls what is written to the
streams in the meantime, by the process or by programs that inherit the streams.  What a
call does besides, it does to descriptors of its own.

Scripted toolchains are accountable, and what they write can be read off the script.
-/

namespace CompileDriver

variable {σ : Type}

/-- The open numbers that a session does not hold. -/
def Host.Foreign (host : Host) (mine : Nat → Prop) (number : Nat) : Prop :=
  host.opened number ≠ none ∧ ¬ mine number

/-- Every call is a sequence of deeds that leaves alone what the session does not hold. -/
structure Toolchain.Accountable (toolchain : Toolchain σ) (owns : σ → Nat → Prop) : Prop where
  create : ∀ (settings : Settings) (host : Host), ∃ pieces,
    Host.Deeds (host.Foreign fun _ => False) host pieces (toolchain.createSession settings host).2
  call : ∀ (session : σ) (call : SessionCall) (host : Host), ∃ pieces,
    Host.Deeds (host.Foreign (owns session)) host pieces (toolchain.perform session call host).2
  close : ∀ (session : σ) (host : Host), ∃ pieces,
    Host.Deeds (host.Foreign (owns session)) host pieces (toolchain.close session host).2

/-! ## Programs that inherit the streams -/

namespace Host

variable {foreign : Nat → Prop} {before after : Host}

/-- Whether programs inherit the stream. -/
def inherits (host : Host) (stream : Stream) : Bool :=
  (host.table.get? stream.number).any Descriptor.inherited

/-- What arrives of the writes of a program: a stream that is not inherited swallows
everything. -/
def passedOn (host : Host) (output : List Written) (stream : Stream) : List Piece :=
  output.flatMap fun write =>
    write.stream.only (if host.inherits write.stream then [⟨.program, write.bytes⟩] else []) stream

theorem deeds_writeInherited (host : Host) (stream : Stream) (bytes : Bytes) :
    Deeds foreign host (stream.only (if host.inherits stream then [⟨.program, bytes⟩] else []))
      (Spawn.writeInherited stream bytes host).2 := by
  have swallowed (notInherits : host.inherits stream = false)
      (same : (Spawn.writeInherited stream bytes host).2 = host) :
      Deeds foreign host (stream.only (if host.inherits stream then [⟨.program, bytes⟩] else []))
        (Spawn.writeInherited stream bytes host).2 := by
    have nothing : stream.only ([] : List Piece) = fun _ => [] :=
      funext fun other => stream.only_nil other
    rw [notInherits, same, if_neg Bool.false_ne_true, nothing]
    exact .none
  rcases found : host.table.get? stream.number with _ | ⟨file, _ | _⟩
  · exact swallowed (by simp [inherits, found]) (by simp [Spawn.writeInherited, found])
  · exact swallowed (by simp [inherits, found]) (by simp [Spawn.writeInherited, found])
  · have inherits : host.inherits stream = true := by simp [inherits, found]
    rw [if_pos inherits]
    exact .single (.inherited host stream bytes found)

theorem deeds_writeAll (host : Host) (output : List Written) :
    Deeds foreign host (host.passedOn output)
      ((output.forM fun write => Spawn.writeInherited write.stream write.bytes) host).2 := by
  induction output generalizing host with
  | nil => exact .none
  | cons write rest ih =>
      have spoken : Utterances (fun _ => False) host
          (Spawn.writeInherited write.stream write.bytes host).2 :=
        (Speaks.writeInherited (fun _ => not_false) write.stream write.bytes host trivial).1
      have same : (Spawn.writeInherited write.stream write.bytes host).2.inherits =
          host.inherits := by
        funext stream
        rw [inherits, inherits, Utterances.table spoken]
      have later := ih (Spawn.writeInherited write.stream write.bytes host).2
      unfold passedOn at later
      rw [same] at later
      exact (deeds_writeInherited host write.stream write.bytes).trans later

end Host

namespace Spawn

/-- What a program writes to the streams that it inherits. -/
def account (launcher : Launcher) (invocation : Invocation) (host : Host) :
    Stream → List Piece :=
  match invocation.check with
  | .error _ => fun _ => []
  | .ok () =>
      match launcher { invocation with closed := closedStreams host } host.files with
      | .error _ => fun _ => []
      | .ok execution => host.passedOn execution.output

theorem deeds_inheriting {foreign : Nat → Prop} (launcher : Launcher) (invocation : Invocation)
    (host : Host) :
    Host.Deeds foreign host (account launcher invocation host)
      (inheriting launcher invocation host).2 := by
  unfold account inheriting
  cases invocation.check with
  | error error => exact .none
  | ok done =>
      let started := host.note (.launched { invocation with closed := closedStreams host })
      have noted : Host.Idles host started := .note host fun _ _ => Event.noConfusion
      simp only [Action.bind_apply, Action.get_apply, launch, Action.modify_apply,
        Action.pure_apply]
      have sameFiles : started.files = host.files := rfl
      rw [sameFiles]
      cases launcher { invocation with closed := closedStreams host } host.files with
      | error error => exact Host.Deeds.after_idling .none noted
      | ok execution =>
          have left : Host.Idles started { started with files := execution.files } :=
            ⟨.of_same rfl rfl, rfl, rfl, rfl, rfl, rfl⟩
          have wrote : Host.Deeds foreign { started with files := execution.files }
              (host.passedOn execution.output) _ :=
            Host.deeds_writeAll { started with files := execution.files } execution.output
          exact (wrote.after_idling left).after_idling noted

end Spawn

/-! ## Scripts -/

namespace ToolchainScript

variable {foreign : Nat → Prop} (launcher : Launcher)

/-- What the actions of a script write to the streams, up to the first panic. -/
def account : List ScriptAction → Host → Stream → List Piece
  | [], _ => fun _ => []
  | .write stream bytes :: rest, host => fun other =>
      stream.only [⟨.process, bytes⟩] other ++ account rest (stream.write bytes host).2 other
  | .child script :: rest, host => fun other =>
      Spawn.account launcher (shellInvocation host script) host other ++
        account rest (runChild launcher script host).2 other
  | .limit count :: rest, host =>
      account rest (SystemCall.limitDescriptors (some count) host).2
  | .panic _ :: _, _ => fun _ => []

theorem deeds_act (actions : List ScriptAction) (host : Host) :
    Host.Deeds foreign host (account launcher actions host) (act launcher actions host).2 := by
  induction actions generalizing host with
  | nil => exact .none
  | cons action rest ih =>
      cases action with
      | write stream bytes => exact (Host.Deeds.single (.write host stream bytes)).trans (ih _)
      | child script =>
          exact (Spawn.deeds_inheriting launcher (shellInvocation host script) host).trans (ih _)
      | limit count =>
          have limited : Host.Idles host (SystemCall.limitDescriptors (some count) host).2 :=
            ⟨.of_same rfl rfl, rfl, rfl, rfl, rfl, rfl⟩
          exact (ih _).after_idling limited
      | panic message => exact .none

/-- A call writes what its actions write. -/
theorem deeds_perform (phase : ScriptPhase) (call : SessionCall) (host : Host) :
    Host.Deeds foreign host (account launcher phase.actions host)
      (perform launcher phase call host).2 := by
  have acted : Host.Deeds foreign host (account launcher phase.actions host)
      (act launcher phase.actions host).2 := deeds_act launcher phase.actions host
  rw [perform, Action.bind_apply]
  cases (act launcher phase.actions host).1 with
  | some panic => exact acted
  | none =>
      cases phase.failure with
      | none => exact acted
      | some error =>
          dsimp only
          split <;> exact acted

/-- The account of the call that runs the program. -/
theorem deeds_run (script : ToolchainScript) (session : Unit) (arguments libs : List String)
    (host : Host) :
    Host.Deeds foreign host (account launcher script.run.actions host)
      ((script.toolchain launcher).perform session (.run arguments libs) host).2 :=
  deeds_perform launcher script.run (.run arguments libs) host

/-- The toolchain that follows a script is accountable. -/
theorem accountable (script : ToolchainScript) :
    (script.toolchain launcher).Accountable fun _ _ => False where
  create settings host := by
    refine ⟨account launcher script.create.actions host, ?_⟩
    have performed : Host.Deeds (host.Foreign fun _ => False) host
        (account launcher script.create.actions host)
        (perform launcher script.create (.create settings.optimisation) host).2 :=
      deeds_perform launcher script.create _ host
    simp only [toolchain, Action.bind_apply]
    cases (perform launcher script.create (.create settings.optimisation) host).1 with
    | panicked panic => exact performed
    | succeeded => exact performed
    | failed error => exact performed
  call session call host := by
    cases call with
    | create optimisation => exact ⟨_, .none⟩
    | plugin name => exact ⟨_, deeds_perform launcher script.plugin _ host⟩
    | parse input => exact ⟨_, deeds_perform launcher script.parse _ host⟩
    | compile => exact ⟨_, deeds_perform launcher script.compile _ host⟩
    | run arguments libs => exact ⟨_, deeds_run launcher script session arguments libs host⟩
    | link output options => exact ⟨_, deeds_perform launcher script.link _ host⟩
  close _ _ := ⟨_, .none⟩

end ToolchainScript

end CompileDriver
