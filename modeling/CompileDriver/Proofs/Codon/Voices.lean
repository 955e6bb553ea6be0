import CompileDriver.Proofs.Codon.Tidy
import CompileDriver.Proofs.Driver.Telling
import CompileDriver.Proofs.Frontend.Outcome

/-!
# What sessions of the compiler show

The output of the compiler is collected, and passed on only when it has succeeded; its programs
inherit the streams.  So the toolchain voices its diagnostics, and what a captured program has
written is what the request returns.
-/

namespace CompileDriver

/-! ## Programs -/

/-- Nobody sees anything of what sessions do besides writing. -/
theorem hush_letsWork : hush.LetsWork where
  openAs := Hushed.openAs
  pipe := Hushed.pipe
  close := Hushed.close
  launched host _ := .note host _
  files host files := .files host files
  copied host _ _ := .note host _
  scratch host _ _ := .of_same rfl rfl rfl (List.suffix_refl _) (.refl host)

namespace Host

/-- A program that inherits diverted streams is not seen either. -/
theorem hushes_writeAll {host : Host} (diverted : host.IsDiverted) (output : List Written) :
    host.Hushes
      ((output.forM fun write => Spawn.writeInherited write.stream write.bytes) host).2 := by
  have silent {host : Host} (diverted : host.IsDiverted) (stream : Stream) (bytes : Bytes) :
      host.Hushes (Spawn.writeInherited stream bytes host).2 := by
    have wrote := host.tells_write stream bytes
    unfold voiced at wrote
    split at wrote
    · rename_i target found
      exact absurd found (diverted stream target)
    · rcases found : host.table.get? stream.number with _ | ⟨file, _ | _⟩
      · simp [Spawn.writeInherited, found, Hushes.refl]
      · simp [Spawn.writeInherited, found, Hushes.refl]
      · simpa [Spawn.writeInherited, found] using wrote
  induction output generalizing host with
  | nil => exact .refl host
  | cons write rest ih =>
      have spoken : Utterances (fun _ => False) host
          (Spawn.writeInherited write.stream write.bytes host).2 :=
        (Speaks.writeInherited (fun _ => not_false) write.stream write.bytes host trivial).1
      have later : (Spawn.writeInherited write.stream write.bytes host).2.IsDiverted := by
        intro stream target
        rw [spoken.still.1]
        exact diverted stream target
      exact (silent diverted write.stream write.bytes).trans (ih later)

end Host

namespace Spawn

theorem hushes_inheriting (launcher : Launcher) (invocation : Invocation) {host : Host}
    (diverted : host.IsDiverted) : host.Hushes (inheriting launcher invocation host).2 := by
  unfold inheriting
  cases invocation.check with
  | error error => exact .refl host
  | ok done =>
      have noted : host.Hushes (host.note
          (.launched { invocation with closed := closedStreams host })) := .note host _
      simp only [Action.bind_apply, Action.get_apply, launch, Action.modify_apply,
        Action.pure_apply]
      cases launcher { invocation with closed := closedStreams host } _ with
      | error error => exact noted
      | ok execution =>
          let left : Host :=
            { host.note (.launched { invocation with closed := closedStreams host }) with
              files := execution.files }
          have diverted : left.IsDiverted := diverted
          exact (noted.trans (.files _ _)).trans (Host.hushes_writeAll diverted execution.output)

end Spawn

/-! ## Writing to standard error -/

namespace Host

theorem voiced_nil (host : Host) (stream : Stream) : host.voiced stream [] = fun _ => [] := by
  unfold voiced
  split
  · funext other
    simp [Stream.only]
  · rfl

/-- What is seen of some bytes depends on the open files. -/
theorem voiced_of_opened {before after : Host} (same : after.opened = before.opened) :
    after.voiced = before.voiced := by
  funext stream bytes
  rw [voiced, voiced, same]

theorem tells_stderr (host : Host) (bytes : Bytes) :
    host.Tells (host.voiced .stderr bytes) (Stream.stderr.write bytes host).2 := by
  have wrote := host.tells_write .stderr bytes
  simp only [Stream.write, Stream.writeOut, Action.discard_apply, Action.bind_apply]
  cases (SystemCall.write Stream.stderr.number bytes host).1 with
  | ok done => exact wrote
  | error error => exact wrote

end Host

namespace Codon

variable (launcher : Launcher) (binary : Path)

namespace Session

/-! ## Calls -/

/-- What a compiler has to say that has succeeded. -/
def reported : Except OsError Spawn.Collected → Bytes
  | .error _ => []
  | .ok collected => if collected.status.isSuccess then collected.output.stderr else []

/-- What the compiler reports in a call that succeeds. -/
def diagnostics (session : Session) (host : Host) : Bytes :=
  match session.input, session.needScratch host with
  | some input, (.ok scratch, made) =>
      reported (Spawn.collecting launcher
        (session.compilerInvocation made
          (buildArguments session.settings session.plugins input (artifactPath scratch input)))
        made).1
  | _, _ => []

theorem tells_compileInto (session : Session) (place : Place) (input : Path) {host : Host}
    (rest : host.AtRest) :
    host.Tells
      (host.voiced .stderr (reported (Spawn.collecting launcher
        (session.compilerInvocation host
          (buildArguments session.settings session.plugins input (artifactPath place input)))
        host).1))
      (session.compileInto launcher place input host).2 := by
  unfold compileInto
  dsimp only
  rw [Action.bind_apply, Action.get_apply]
  dsimp only
  generalize session.compilerInvocation host _ = invocation
  have collected : host.Hushes (Spawn.collecting launcher invocation host).2 :=
    (hush_letsWork.collecting launcher invocation host rest).1
  have still := (Spawn.shows_collecting launcher invocation host ⟨rfl, List.Subset.refl _⟩).files
  rw [← Host.voiced_of_opened still, Action.bind_apply]
  rcases outcome : Spawn.collecting launcher invocation host with
    ⟨error | ⟨output, status⟩, later⟩
  all_goals rw [outcome] at collected
  · rw [reported, Host.voiced_nil]
    exact collected
  · rw [reported]
    dsimp only
    by_cases succeeded : status.isSuccess = true
    · rw [if_pos succeeded, if_pos succeeded]
      by_cases silent : output.stderr = []
      · rw [silent, Host.voiced_nil, if_neg (not_not.mpr rfl)]
        exact collected
      · rw [if_pos silent]
        exact (later.tells_stderr output.stderr).after_hush collected
    · rw [if_neg succeeded, if_neg succeeded, Host.voiced_nil]
      exact collected

/-- To compile shows the diagnostics of a compiler that succeeds. -/
theorem tells_compile (session : Session) {host : Host} (rest : host.AtRest) :
    host.Tells (host.voiced .stderr (session.diagnostics launcher host))
      (session.compile launcher host).2 := by
  rcases session with ⟨binary, settings, plugins, _ | input, artifact, scratch⟩
  · exact host.voiced_nil .stderr ▸ Host.Hushes.refl host
  · have made := (hush_letsWork.needScratch
      ⟨binary, settings, plugins, some input, artifact, scratch⟩ host rest).1
    have opened := (stays_needScratch ⟨binary, settings, plugins, some input, artifact, scratch⟩
      host trivial).1.1
    unfold compile diagnostics
    dsimp only
    rw [Action.bind_apply]
    rcases outcome : needScratch _ host with ⟨error | place, scratched⟩
    all_goals rw [outcome] at made opened
    · exact host.voiced_nil .stderr ▸ made
    · have compiled := tells_compileInto launcher
        ⟨binary, settings, plugins, some input, artifact, scratch⟩ place input (made.atRest rest)
      rw [Host.voiced_of_opened opened] at compiled
      exact compiled.after_hush made

/-! ## Other calls -/

variable {launcher}

theorem hushes_run (session : Session) (arguments : List String) {host : Host}
    (diverted : host.IsDiverted) : host.Hushes (session.run launcher arguments host).2 := by
  unfold run
  cases session.artifact with
  | none => exact .refl host
  | some artifact =>
      have ran : host.Hushes
          (Spawn.inheriting launcher (programInvocation host artifact arguments) host).2 :=
        Spawn.hushes_inheriting launcher _ diverted
      dsimp only
      rw [Action.bind_apply, Action.get_apply]
      dsimp only
      rw [Action.bind_apply]
      rcases outcome : Spawn.inheriting launcher (programInvocation host artifact arguments) host
        with ⟨error | status, later⟩
      all_goals rw [outcome] at ran
      · exact ran
      · dsimp only
        split
        · exact ran
        · exact ran

end Session

/-- The compiler is seen in its diagnostics only. -/
theorem voices : (toolchain launcher binary).Voices (Session.diagnostics launcher) where
  create _ := .value trivial
  plugin session name := .loadPlugin session name
  parse session input := .parseFile session input
  compile session _ rest := session.tells_compile launcher rest
  run session arguments _ _ _ diverted := session.hushes_run arguments diverted
  link session output options := hush_letsWork.writeExecutable session output options
  close session := hush_letsWork.closeSession session

end Codon

end CompileDriver
