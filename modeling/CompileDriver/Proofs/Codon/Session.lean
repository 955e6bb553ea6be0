import CompileDriver.Codon.Session
import CompileDriver.Proofs.Driver.Session
import CompileDriver.Proofs.Host.Undertakings

/-!
# Calls on a Codon session

A session records the plugins that were loaded, the input that was parsed and the
artifact that was compiled.  `Session.due` says what a call on it has to undertake by
this record, or with which error it is refused; `Session.learn` says what a call that
succeeds adds to the record.  `Performs` puts the two together: it is what every call
does, whatever programs and files do.

All artifacts of a session go into one directory, which is made for the first of them.
-/

namespace CompileDriver.Codon

/-! ## Errors of misuse -/

/-- The end of a compilation before anything was parsed. -/
def notParsed : CallEnd :=
  Session.fail .other "no input was parsed"

/-- The end of a request for a kind of executable that was not compiled. -/
def otherLinkMode : CallEnd :=
  Session.fail .other "the program was compiled for a different link mode"

/-- A call ended so because it was made too early, or asked for something else than was
compiled. -/
def IsMisuse (ended : CallEnd) : Prop :=
  ended = notParsed ∨ ended = Session.notCompiled ∨ ended = otherLinkMode

theorem not_isMisuse_succeeded : ¬ IsMisuse .succeeded := by
  rintro (same | same | same) <;> cases same

theorem not_isMisuse_of_kind {error : ToolchainError} (other : error.kind ≠ .other) :
    ¬ IsMisuse (.failed error) := by
  rintro (same | same | same)
  all_goals
    cases same
    exact other rfl

theorem not_isMisuse_failSystem (error : OsError) : ¬ IsMisuse (Session.failSystem error) :=
  not_isMisuse_of_kind nofun

/-- A compiler that failed is not taken for a misuse. -/
theorem not_isMisuse_compilerError (diagnostics : Bytes) (status : ExitStatus) :
    ¬ IsMisuse (Session.compilerError diagnostics status) := by
  unfold Session.compilerError
  dsimp only
  split
  · -- the three messages of misuse begin with another letter
    have starts : ("codon exited with " ++ status.text).toList.head? = some 'c' := by
      rw [String.toList_append]
      rfl
    rintro (same | same | same)
    all_goals
      injection same with same
      injection same with _ same
      rw [show "codon exited with " ++ status.text = _ from same] at starts
      revert starts
      decide
  · exact not_isMisuse_of_kind nofun

namespace Session

/-! ## What a call has to do -/

/-- What the calls on a session undertake when they succeed, or the end of a call that is
refused; artifacts go into `directory`. -/
def due (session : Session) (directory : Place) (host : Host) :
    SessionCall → Except CallEnd (List Event)
  | .create _ | .plugin _ | .parse _ => .ok []
  | .compile =>
      match session.input with
      | none => .error notParsed
      | some input =>
          .ok [.launched (session.compilerInvocation host
            (buildArguments session.settings session.plugins input
              (artifactPath directory input)))]
  | .run arguments _ =>
      match session.artifact with
      | none => .error notCompiled
      | some artifact =>
          .ok [.launched { programInvocation host artifact arguments with
            closed := Spawn.closedStreams host }]
  | .link output options =>
      if options.sharedLib ≠ session.settings.sharedLib then .error otherLinkMode
      else match session.artifact with
        | none => .error notCompiled
        | some artifact => .ok [.copied artifact output]

/-- The record of a session after a call that has succeeded. -/
def learn (session : Session) (directory : Place) : SessionCall → Session
  | .plugin name => { session with plugins := session.plugins ++ [name] }
  | .parse input => { session with input := some input }
  | .compile => { session with artifact := session.input.map (artifactPath directory) }
  | .create _ | .run _ _ | .link _ _ => session

/-- Two sessions are the same, but the second one may have come to a scratch directory. -/
structure Alike (first second : Session) : Prop where
  record : second = { first with scratch := second.scratch }
  scratch : ∀ place, first.scratch = some place → second.scratch = some place

theorem Alike.refl (session : Session) : session.Alike session :=
  ⟨rfl, fun _ found => found⟩

/-- A session with a scratch directory, which is the one that it has had. -/
theorem Alike.of_scratch {session : Session} {place : Place}
    (stays : ∀ earlier, session.scratch = some earlier → earlier = place) :
    session.Alike { session with scratch := some place } :=
  ⟨rfl, fun earlier found => by rw [stays earlier found]⟩

/-- What comes of a call on a session for which something is due. -/
structure Outcome (directory : Place) (session : Session) (call : SessionCall) (due : List Event)
    (made : List Event) (reached : CallEnd × Session) : Prop where
  /-- It is undertaken, or the call stops before. -/
  undertaken : Completes due (fun reached => reached.1 = .succeeded) made reached
  /-- A call that fails does not do so for a misuse. -/
  proper : ¬ IsMisuse reached.1
  returns : reached.1.returns = true
  /-- A call that succeeds adds to the record, one that fails leaves it as it is. -/
  records : (if reached.1 = .succeeded then session.learn directory call else session).Alike
    reached.2

/-- What an action does as a call on a session, when the artifacts of the session go into
`directory`. -/
structure Performs (directory : Place) (session : Session) (call : SessionCall) (host : Host)
    (action : Action (CallEnd × Session)) : Prop where
  /-- A call that is refused does nothing. -/
  refused : ∀ refusal, session.due directory host call = .error refusal →
    action host = ((refusal, session), host)
  ventures : ∀ due, session.due directory host call = .ok due →
    VenturesAt host action (session.Outcome directory call due)

namespace Outcome

variable {session : Session} {directory : Place} {call : SessionCall} {due made : List Event}

/-- A call that fails for its own reasons. -/
theorem failed {error : ToolchainError} {later : Session} (atMost : made = [] ∨ made = due)
    (proper : ¬ IsMisuse (.failed error)) (alike : session.Alike later) :
    Outcome directory session call due made (.failed error, later) where
  undertaken := ⟨atMost, nofun⟩
  proper := proper
  returns := rfl
  records := alike

theorem succeeded {later : Session} (all : made = due)
    (alike : (session.learn directory call).Alike later) :
    Outcome directory session call due made (.succeeded, later) where
  undertaken := ⟨.inr all, fun _ => all⟩
  proper := not_isMisuse_succeeded
  returns := rfl
  records := alike

end Outcome

namespace Performs

variable {session : Session} {directory : Place} {call : SessionCall} {host : Host}
  {action : Action (CallEnd × Session)}

theorem of_due {due : List Event} (isDue : session.due directory host call = .ok due)
    (ventures : VenturesAt host action (session.Outcome directory call due)) :
    Performs directory session call host action where
  refused refusal isRefused := by
    rw [isDue] at isRefused
    cases isRefused
  ventures events same := by
    rw [isDue] at same
    cases same
    exact ventures
theorem of_refused {refusal : CallEnd}
    (isRefused : session.due directory host call = .error refusal)
    (nothing : action host = ((refusal, session), host)) :
    Performs directory session call host action where
  refused other same := by
    rw [isRefused] at same
    cases same
    exact nothing
  ventures due isDue := by
    rw [isRefused] at isDue
    cases isDue

end Performs

/-! ## The calls -/

variable (launcher : Launcher) (session : Session) (directory : Place) (host : Host)

theorem performs_loadPlugin (plugin : String) :
    Performs directory session (.plugin plugin) host (session.loadPlugin plugin) := by
  apply Performs.of_due rfl
  apply VenturesAt.look
  split
  · exact Ventures.value (.failed (.inl rfl) (not_isMisuse_of_kind nofun) (.refl session)) host
  · exact Ventures.value (.succeeded rfl (.refl _)) host

theorem performs_parseFile (input : Path) :
    Performs directory session (.parse input) host (session.parseFile input) := by
  apply Performs.of_due rfl
  apply VenturesAt.look
  split
  · exact Ventures.value (.succeeded rfl (.refl _)) host
  · exact Ventures.value (.failed (.inl rfl) (not_isMisuse_of_kind nofun) (.refl session)) host

/-! ### Compiling -/

theorem makeScratch_cases (host : Host) :
    (∃ error, makeScratch host = (.error error, host)) ∨
      ∃ place files scratchesMade,
        makeScratch host = (.ok place, { host with files, scratchesMade }) := by
  unfold makeScratch
  rw [Action.bind_apply, Action.get_apply]
  dsimp only
  cases host.files.hasDirectory host.temporary with
  | true => exact .inr ⟨_, _, _, rfl⟩
  | false => exact .inl ⟨_, rfl⟩

/-- A session keeps the scratch directory that it has. -/
theorem needScratch_cases (session : Session) (host : Host) :
    (∃ error, session.needScratch host = (.error error, host)) ∨
      ∃ place files scratchesMade,
        session.needScratch host = (.ok place, { host with files, scratchesMade }) ∧
          ∀ earlier, session.scratch = some earlier → earlier = place := by
  unfold needScratch
  cases session.scratch with
  | some place =>
      right
      refine ⟨place, host.files, host.scratchesMade, rfl, ?_⟩
      rintro _ ⟨⟩
      rfl
  | none =>
      rcases makeScratch_cases host with failed | ⟨place, files, scratchesMade, made⟩
      · exact .inl failed
      · exact .inr ⟨place, files, scratchesMade, made, nofun⟩

/-- What the compiler is asked for once the scratch directory is there. -/
def compileInto (launcher : Launcher) (session : Session) (place : Place) (input : Path) :
    Action (CallEnd × Session) := do
  let arguments :=
    buildArguments session.settings session.plugins input (artifactPath place input)
  match ← Spawn.collecting launcher (session.compilerInvocation (← get) arguments) with
  | .error error => return (failSystem error, { session with scratch := some place })
  | .ok { output, status } =>
      if status.isSuccess then
        if output.stderr ≠ [] then Stream.stderr.write output.stderr
        return (.succeeded,
          { session with
            scratch := some place
            artifact := some (artifactPath place input) })
      else return (compilerError output.stderr status, { session with scratch := some place })

/-- A compilation fails for want of a scratch directory, or it goes into the one that it
has. -/
theorem compile_cases {input : Path} (parsed : session.input = some input) :
    (∃ error, session.compile launcher host = ((failSystem error, session), host)) ∨
      ∃ place files scratchesMade,
        session.compile launcher host =
          session.compileInto launcher place input { host with files, scratchesMade } ∧
        ∀ earlier, session.scratch = some earlier → earlier = place := by
  obtain ⟨binary, settings, plugins, _, artifact, scratch⟩ := session
  cases parsed
  unfold compile
  dsimp only
  rw [Action.bind_apply]
  rcases needScratch_cases _ host with ⟨error, failed⟩ | ⟨place, files, made, found, stays⟩
  · rw [failed]
    exact .inl ⟨error, rfl⟩
  · rw [found]
    exact .inr ⟨place, files, made, rfl, stays⟩

theorem ventures_compileInto {input : Path} (parsed : session.input = some input)
    {place : Place} (stays : ∀ earlier, session.scratch = some earlier → earlier = place) :
    VenturesAt host (session.compileInto launcher place input) fun made reached =>
      session.Outcome place .compile [.launched (session.compilerInvocation host
        (buildArguments session.settings session.plugins input (artifactPath place input)))]
        made reached ∧
      reached.2.scratch = some place := by
  have unchanged : session.Alike { session with scratch := some place } := .of_scratch stays
  apply VenturesAt.look
  apply (Spawn.ventures_collecting launcher _ host).before
  intro made outcome completes
  cases outcome with
  | error error =>
      have failed := not_isMisuse_failSystem error
      exact .value ⟨.failed completes.atMost failed unchanged, rfl⟩
  | ok collected =>
      dsimp only
      split
      · have learned : (session.learn place .compile).Alike
            { session with
              scratch := some place
              artifact := some (artifactPath place input) } := by
          constructor
          · simp [learn, parsed]
          · exact unchanged.scratch
        have succeeded := Outcome.succeeded (completes.atLeast rfl) learned
        split
        · exact (Plain.writeStream .stderr _).bind fun _ _ => .value ⟨succeeded, rfl⟩
        · exact .value ⟨succeeded, rfl⟩
      · obtain ⟨error, same⟩ : ∃ error, compilerError collected.output.stderr collected.status =
            .failed error := by
          unfold compilerError
          dsimp only
          split <;> exact ⟨_, rfl⟩
        have proper := not_isMisuse_compilerError collected.output.stderr collected.status
        rw [same] at proper ⊢
        exact .value ⟨.failed completes.atMost proper unchanged, rfl⟩

theorem performs_compile
    (within : ∀ place, (session.compile launcher host).1.2.scratch = some place →
      place = directory) :
    Performs directory session .compile host (session.compile launcher) := by
  cases parsed : session.input with
  | none =>
      apply Performs.of_refused
      · simp only [due, parsed]
        rfl
      · unfold compile
        rw [parsed]
        rfl
  | some input =>
      apply Performs.of_due
      · simp only [due, parsed]
        rfl
      · rcases compile_cases launcher session host parsed with
          ⟨error, failed⟩ | ⟨place, files, scratchesMade, made, stays⟩
        · refine ⟨[], ?_, ?_⟩
          · rw [failed]
            exact .refl host
          · rw [failed]
            exact .failed (.inl rfl) (not_isMisuse_failSystem error) (.refl session)
        · obtain ⟨begun, undertakes, outcome, scratch⟩ :=
            ventures_compileInto launcher session { host with files, scratchesMade } parsed stays
          rw [← made] at undertakes outcome scratch
          have same := within place scratch
          subst same
          have nothing : host.Undertakes { host with files, scratchesMade } [] :=
            .of_plain (.of_journal rfl)
          exact ⟨begun, nothing.trans undertakes, outcome⟩

/-! ### Running and writing out -/

theorem performs_run (arguments libs : List String) :
    Performs directory session (.run arguments libs) host (session.run launcher arguments) := by
  cases compiled : session.artifact with
  | none =>
      apply Performs.of_refused
      · simp only [due, compiled]
        rfl
      · unfold run
        rw [compiled]
        rfl
  | some artifact =>
      apply Performs.of_due
      · simp only [due, compiled]
        rfl
      · unfold run
        rw [compiled]
        apply VenturesAt.look
        apply (Spawn.ventures_inheriting launcher _ host).before
        intro made outcome completes
        cases outcome with
        | error error =>
            exact .value (.failed completes.atMost (not_isMisuse_failSystem error) (.refl session))
        | ok status =>
            dsimp only
            split
            · exact .value (.succeeded (completes.atLeast rfl) (.refl session))
            · exact .value (.failed completes.atMost (not_isMisuse_of_kind nofun) (.refl session))

/-- Only a regular file is opened a second time. -/
theorem plain_openTarget (isFile : Bool) (file : Nat → OpenFile) (input : Nat) :
    Plain (if isFile then SystemCall.openAs file else pure (.ok input)) := by
  split
  · exact .openAs file
  · exact .value trivial

theorem plain_takeCopy (copied : Except OsError FileTree) : Plain (takeCopy copied) := by
  cases copied with
  | error error => exact .value trivial
  | ok files =>
      have changed : Plain (modify fun host => { host with files }) :=
        .changed fun _ => .of_journal rfl
      exact changed.bind fun _ _ => .value trivial

theorem ventures_copyFile (source target : Path) :
    Ventures (copyFile source target) fun made _ => made = [.copied source target] := by
  intro host
  have noted : VenturesAt host (modify (·.note (.copied source target)) : Action PUnit)
      fun made _ => made = [.copied source target] :=
    ⟨[.copied source target], .note host rfl, rfl⟩
  apply noted.before
  rintro _ _ rfl
  apply Discipline.Governs.look
  intro host _
  split
  · exact .value rfl
  · refine Plain.known ?_ (fun _ => rfl) host trivial
    apply (Plain.openAs _).bind
    intro opened _
    cases opened with
    | error error => exact .value trivial
    | ok input =>
        apply (plain_openTarget _ _ input).bind
        intro opened _
        cases opened with
        | error error => exact (Plain.close input).bind fun _ _ => .value trivial
        | ok output =>
            apply Discipline.Governs.look
            intro later _
            have closed : Plain (do
                SystemCall.close input
                takeCopy (later.files.copy host.directory source target)) :=
              (Plain.close input).bind fun _ _ => plain_takeCopy _
            dsimp only
            split
            · exact ((Plain.close output).bind fun _ _ => closed) later trivial
            · exact closed later trivial

theorem performs_writeExecutable (output : Path) (options : LinkOptions) :
    Performs directory session (.link output options) host
      (session.writeExecutable output options) := by
  by_cases differs : options.sharedLib ≠ session.settings.sharedLib
  · apply Performs.of_refused
    · simp only [due, if_pos differs]
      rfl
    · unfold writeExecutable
      rw [if_pos differs]
      rfl
  · cases compiled : session.artifact with
    | none =>
        apply Performs.of_refused
        · simp only [due, if_neg differs, compiled]
          rfl
        · unfold writeExecutable
          rw [if_neg differs, compiled]
          rfl
    | some artifact =>
        apply Performs.of_due
        · simp only [due, if_neg differs, compiled]
          rfl
        · unfold writeExecutable
          rw [if_neg differs, compiled]
          apply (ventures_copyFile artifact output host).before
          rintro _ outcome rfl
          cases outcome with
          | error error =>
              exact .value (.failed (.inr rfl) (not_isMisuse_failSystem error) (.refl session))
          | ok done => exact .value (.succeeded rfl (.refl session))

end Session

/-- Every call on a session is one that performs. -/
theorem performs (launcher : Launcher) (binary : Path) (session : Session) (directory : Place)
    (call : SessionCall) (host : Host)
    (within : ∀ place,
      ((toolchain launcher binary).perform session call host).1.2.scratch = some place →
        place = directory) :
    session.Performs directory call host ((toolchain launcher binary).perform session call) := by
  cases call with
  | create => exact .of_due rfl (Ventures.value (.succeeded rfl (.refl session)) host)
  | plugin name => exact session.performs_loadPlugin directory host name
  | parse input => exact session.performs_parseFile directory host input
  | compile => exact session.performs_compile launcher directory host within
  | run arguments libs => exact session.performs_run launcher directory host arguments libs
  | link output options => exact session.performs_writeExecutable directory host output options

/-- It does so for the scratch directory that the session has afterwards, if any. -/
theorem performs_somewhere (launcher : Launcher) (binary : Path) (session : Session)
    (call : SessionCall) (host : Host) :
    ∃ directory, session.Performs directory call host
      ((toolchain launcher binary).perform session call) := by
  refine ⟨_, performs launcher binary session
    (((toolchain launcher binary).perform session call host).1.2.scratch.getD []) call host ?_⟩
  intro place found
  rw [found, Option.getD_some]

end CompileDriver.Codon
