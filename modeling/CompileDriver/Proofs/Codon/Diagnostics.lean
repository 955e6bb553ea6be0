import CompileDriver.Proofs.Action
import CompileDriver.Proofs.Codon.Captured
import CompileDriver.Proofs.Codon.Leavings
import CompileDriver.Proofs.Driver.Oblivious
import CompileDriver.Proofs.Driver.Texts

/-!
# Diagnostics surface once

What a compiler says goes one of three ways.  When it succeeds, its diagnostics are written to
standard error, where the suppressor may hide them; when it fails, they are the message of the
result, unless they are blank.  What it writes to its standard output is never seen.

Whether bytes can be seen is told in two ways: by what arrives at files, and by twins of a
launcher, whose programs do the same but may say something else.
-/

namespace CompileDriver

/-! ## Texts -/

/-- A text with something in it still has it without the white space at its end. -/
theorem Text.isAllBlank_trimEnd {text : String} (notBlank : isAllBlank text = false) :
    isAllBlank (trimEnd text) = false := by
  obtain ⟨char, member, solid⟩ := List.all_eq_false.mp notBlank
  rw [isAllBlank, trimEnd, String.toList_ofList, List.all_eq_false]
  refine ⟨char, ?_, solid⟩
  have split : char ∈ text.toList.reverse.takeWhile isBlank ++
      text.toList.reverse.dropWhile isBlank := by
    rw [List.takeWhile_append_dropWhile]
    exact List.mem_reverse.mpr member
  rcases List.mem_append.mp split with blank | rest
  · exact absurd (List.mem_takeWhile_imp blank) solid
  · exact List.mem_reverse.mpr rest

/-- An error with something in its text says that. -/
theorem ToolchainError.message_of_not_blank {error : ToolchainError}
    (notBlank : Text.isAllBlank error.rendered = false) : error.message = error.rendered := by
  rw [message, notBlank]
  rfl

/-! ## Twins -/

/-- Two runs of programs leave the same files and end in the same way, and some streams hear
the same of them. -/
structure Execution.Resembles (heard : Stream → Prop) (one other : Execution) : Prop where
  files : one.files = other.files
  status : one.status = other.status
  written : ∀ stream, heard stream → one.written stream = other.written stream

/-- The programs of two launchers do the same, and some streams hear the same of them. -/
def Launcher.Resembles (heard : Stream → Prop) (launcher twin : Launcher) : Prop :=
  ∀ invocation files,
    SameOutcome (Execution.Resembles heard) (launcher invocation files) (twin invocation files)

/-- Two programs have ended in the same way, and some streams have heard the same of them. -/
structure Spawn.Collected.Resembles (heard : Stream → Prop) (one other : Collected) : Prop where
  status : one.status = other.status
  output : ∀ stream, heard stream → one.output.get stream = other.output.get stream

namespace Abreast

variable {α : Type} {heard : Stream → Prop} {launcher twin : Launcher}

theorem same (action : Action α) : Abreast Eq action action Eq := by
  rintro host _ rfl
  exact ⟨rfl, rfl⟩

/-- What is the same on every host is the same. -/
theorem eq {one two : Action α} (abreast : Abreast Eq one two Eq) : one = two := by
  funext host
  obtain ⟨sameHost, sameValue⟩ := abreast host host rfl
  exact Prod.ext sameValue sameHost

section

variable (resembles : launcher.Resembles heard twin) (invocation : Invocation)

include resembles

theorem launch : Abreast Eq (Spawn.launch launcher invocation) (Spawn.launch twin invocation)
    (SameOutcome (Execution.Resembles heard)) := by
  rintro host _ rfl
  exact ⟨rfl, resembles _ _⟩

theorem collectingOn (input : Nat) (stdout stderr : Nat × Nat) :
    Abreast Eq (Spawn.collectingOn launcher invocation input stdout stderr)
      (Spawn.collectingOn twin invocation input stdout stderr)
      (SameOutcome (Spawn.Collected.Resembles heard)) := by
  refine (launch resembles invocation).bind fun started other alike => ?_
  refine (same _).bind fun _ _ _ => ?_
  cases alike with
  | error error => exact (same _).bind fun _ _ _ => .value (.error error)
  | @ok execution otherExecution alike =>
      have left : Abreast Eq
          (modify fun host => { host with files := execution.files } : Action PUnit)
          (modify fun host => { host with files := otherExecution.files }) Eq := by
        rw [alike.files]
        exact same _
      refine left.bind fun _ _ _ => (same _).bind fun _ _ _ => .value (.ok ⟨alike.status, ?_⟩)
      intro stream isHeard
      cases stream with
      | stdout => exact alike.written .stdout isHeard
      | stderr => exact alike.written .stderr isHeard

/-- What is collected of programs that do the same leaves the same host. -/
theorem collecting :
    Abreast Eq (Spawn.collecting launcher invocation) (Spawn.collecting twin invocation)
      (SameOutcome (Spawn.Collected.Resembles heard)) := by
  unfold Spawn.collecting
  cases invocation.check with
  | error error => exact .value (.error error)
  | ok done =>
      refine (same _).bind ?_
      rintro (error | input) _ rfl
      · exact .value (.error error)
      · refine (same _).bind ?_
        rintro (error | stdout) _ rfl
        · exact (same _).bind fun _ _ _ => .value (.error error)
        · refine (same _).bind ?_
          rintro (error | stderr) _ rfl
          · exact (same _).bind fun _ _ _ => .value (.error error)
          · exact collectingOn resembles invocation input stdout stderr

end

end Abreast

/-! ## One write -/

/-- Nothing but some bytes has arrived: as they are and at most once, at the file of standard
error, and once if there are any and the file takes them. -/
structure Host.PassesOn (before after : Host) (bytes : Bytes) : Prop where
  atMost : after.arrivalsSince before = [] ∨ ∃ file,
    before.opened Stream.stderr.number = some file ∧ after.arrivalsSince before = [(file, bytes)]
  atLeast : bytes ≠ [] → before.opened.Takes Stream.stderr.number → ∀ file,
    before.opened Stream.stderr.number = some file → after.arrivalsSince before = [(file, bytes)]

/-- To write to standard error passes on what is written. -/
theorem Host.passesOn_write (host : Host) (bytes : Bytes) :
    host.PassesOn (Stream.stderr.write bytes host).2 bytes := by
  have wrote : (Stream.stderr.write bytes host).2 =
      (SystemCall.write Stream.stderr.number bytes host).2 := Stream.stderr.writeOut_host bytes host
  rw [wrote]
  exact ⟨host.arrivalsSince_write _ bytes, fun _ takes _ found =>
    arrivalsSince_write_of_takes found takes bytes⟩

/-- Nothing has arrived before. -/
theorem Host.PassesOn.after {first second third : Host} {bytes : Bytes}
    (passes : second.PassesOn third bytes) (same : second.opened = first.opened)
    (silent : second.arrivalsSince first = []) (start : first.journal <:+ second.journal)
    (rest : second.journal <:+ third.journal) : first.PassesOn third bytes := by
  have arrivals : third.arrivalsSince first = third.arrivalsSince second := by
    rw [arrivalsSince_trans start rest, silent, List.nil_append]
  obtain ⟨atMost, atLeast⟩ := passes
  rw [same] at atMost atLeast
  exact ⟨arrivals ▸ atMost, arrivals ▸ atLeast⟩

namespace Codon

/-! ## The compiler -/

/-- What is said of a compiler that has failed. -/
def complaint (collected : Spawn.Collected) : String :=
  let text := Utf8.lossy collected.output.stderr
  if Text.isAllBlank text then "codon exited with " ++ collected.status.text
  else Text.trimEnd text

theorem message_compilerError (collected : Spawn.Collected) :
    ∃ error, Session.compilerError collected.output.stderr collected.status = .failed error ∧
      error.message = complaint collected := by
  unfold Session.compilerError complaint
  dsimp only
  cases blank : Text.isAllBlank (Utf8.lossy collected.output.stderr) with
  | true =>
      refine ⟨_, rfl, ToolchainError.message_of_not_blank ?_⟩
      have solid : Text.isAllBlank "codon exited with " = false := by decide
      show Text.isAllBlank ("codon exited with " ++ collected.status.text) = false
      rw [Text.isAllBlank, String.toList_append, List.all_append]
      rw [Text.isAllBlank] at solid
      rw [solid, Bool.false_and]
  | false => exact ⟨_, rfl, ToolchainError.message_of_not_blank (Text.isAllBlank_trimEnd blank)⟩

namespace Session

variable (launcher : Launcher) (session : Session) (host : Host)

/-- The invocation of the compiler that is asked to write into a directory. -/
def invocationInto (place : Place) (input : Path) : Invocation :=
  session.compilerInvocation host
    (buildArguments session.settings session.plugins input (artifactPath place input))

/-- What the compiler of a call has said and how it has ended, and the host then, unless the
call ends before. -/
def compiler : Option (Spawn.Collected × Host) :=
  match session.input, session.needScratch host with
  | some input, (.ok place, made) =>
      match Spawn.collecting launcher (session.invocationInto made place input) made with
      | (.ok collected, ended) => some (collected, ended)
      | (.error _, _) => none
  | _, _ => none

variable {launcher session host} {place : Place} {input : Path} {made ended : Host}
  {collected : Spawn.Collected}

/-- The compiler has ended when its output is collected. -/
theorem compiler_of_collecting (parsed : session.input = some input)
    (needed : session.needScratch host = (.ok place, made))
    (outcome : Spawn.collecting launcher (session.invocationInto made place input) made =
      (.ok collected, ended)) :
    session.compiler launcher host = some (collected, ended) := by
  rw [compiler, parsed, needed]
  dsimp only
  rw [outcome]

theorem collecting_of_compiler (ran : session.compiler launcher host = some (collected, ended)) :
    ∃ input place made, session.input = some input ∧
      session.needScratch host = (.ok place, made) ∧
      Spawn.collecting launcher (session.invocationInto made place input) made =
        (.ok collected, ended) := by
  unfold compiler at ran
  cases parsed : session.input with
  | none =>
      rw [parsed] at ran
      cases ran
  | some input =>
      rcases needed : session.needScratch host with ⟨error | place, made⟩
      all_goals rw [parsed, needed] at ran
      · cases ran
      · dsimp only at ran
        rcases outcome : Spawn.collecting launcher (session.invocationInto made place input) made
          with ⟨error | collected, later⟩
        all_goals rw [outcome] at ran
        · cases ran
        · cases ran
          exact ⟨input, place, made, rfl, rfl, outcome⟩

/-- What the compiler says is passed on if it succeeds, and kept for the error otherwise. -/
theorem compileInto_of_collecting
    (outcome : Spawn.collecting launcher (session.invocationInto host place input) host =
      (.ok collected, ended)) :
    session.compileInto launcher place input host =
      if collected.status.isSuccess then
        ((.succeeded,
          { session with scratch := some place, artifact := some (artifactPath place input) }),
          if collected.output.stderr ≠ [] then (Stream.stderr.write collected.output.stderr ended).2
          else ended)
      else
        ((compilerError collected.output.stderr collected.status,
          { session with scratch := some place }), ended) := by
  unfold compileInto
  dsimp only
  rw [Action.bind_apply, Action.get_apply]
  dsimp only
  rw [Action.bind_apply, ← invocationInto, outcome]
  dsimp only
  by_cases succeeded : collected.status.isSuccess = true
  · rw [if_pos succeeded, if_pos succeeded]
    split
    · rfl
    · rfl
  · rw [if_neg succeeded, if_neg succeeded]
    rfl

theorem compile_of_compiler (ran : session.compiler launcher host = some (collected, ended)) :
    ∃ input place, session.input = some input ∧ (session.needScratch host).1 = .ok place ∧
      session.compile launcher host =
        if collected.status.isSuccess then
          ((.succeeded,
            { session with scratch := some place, artifact := some (artifactPath place input) }),
            if collected.output.stderr ≠ [] then
              (Stream.stderr.write collected.output.stderr ended).2
            else ended)
        else
          ((compilerError collected.output.stderr collected.status,
            { session with scratch := some place }), ended) := by
  obtain ⟨input, place, made, parsed, needed, outcome⟩ := collecting_of_compiler ran
  refine ⟨input, place, parsed, congrArg Prod.fst needed, ?_⟩
  rw [← compileInto_of_collecting outcome]
  obtain ⟨binary, settings, plugins, _, artifact, scratch⟩ := session
  cases parsed
  unfold compile
  dsimp only
  rw [Action.bind_apply, needed]
  rfl

/-- Nothing is noted while a scratch directory is made, and the line buffer is left alone. -/
theorem past_needScratch (session : Session) (host : Host) :
    (session.needScratch host).2.journal = host.journal ∧
      (session.needScratch host).2.lineBuffer = host.lineBuffer := by
  rcases session.needScratch_cases host with ⟨error, failed⟩ | ⟨place, files, made, found, -⟩
  · rw [failed]
    exact ⟨rfl, rfl⟩
  · rw [found]
    exact ⟨rfl, rfl⟩

/-- Nothing arrives anywhere until the compiler has ended, and the open files and the line
buffer are what they were. -/
theorem quiet_compiler (ran : session.compiler launcher host = some (collected, ended)) :
    host.Notes (fun moment => moment.arrival? = none) ended ∧ ended.opened = host.opened ∧
      ended.lineBuffer = host.lineBuffer := by
  obtain ⟨input, place, made, -, needed, outcome⟩ := collecting_of_compiler ran
  obtain ⟨sameJournal, sameBuffer⟩ := session.past_needScratch host
  have sameFiles := (stays_needScratch session host trivial).1.1
  rw [needed] at sameJournal sameBuffer sameFiles
  let invocation := session.invocationInto made place input
  have silent := (Spawn.silent_collecting launcher invocation made trivial).1
  have mute := (IsMute.letsCollect.collecting launcher invocation made trivial).1
  have shows := Spawn.shows_collecting launcher invocation made ⟨rfl, List.Subset.refl _⟩
  rw [outcome] at silent mute shows
  have start : host.Notes (fun moment => moment.arrival? = none) made := .of_journal sameJournal
  exact ⟨start.trans silent, shows.files.trans sameFiles, mute.lineBuffer.trans sameBuffer⟩

/-- A twin of the compiler ends on the same host. -/
theorem compiler_twin {heard : Stream → Prop} {twin : Launcher}
    (resembles : launcher.Resembles heard twin)
    (ran : session.compiler launcher host = some (collected, ended)) :
    ∃ other, session.compiler twin host = some (other, ended) ∧
      collected.Resembles heard other := by
  obtain ⟨input, place, made, parsed, needed, outcome⟩ := collecting_of_compiler ran
  obtain ⟨sameHost, alike⟩ := Abreast.collecting resembles
    (session.invocationInto made place input) made made rfl
  rcases outcomeTwin : Spawn.collecting twin (session.invocationInto made place input) made with
    ⟨result, later⟩
  rw [outcome, outcomeTwin] at sameHost alike
  obtain rfl : ended = later := sameHost
  cases alike with
  | @ok _ other alike => exact ⟨other, compiler_of_collecting parsed needed outcomeTwin, alike⟩

/-- Two compilers that fail in the same way fail alike, whatever they say. -/
theorem failAlike_compile {heard : Stream → Prop} {twin : Launcher}
    (resembles : launcher.Resembles heard twin)
    (ran : session.compiler launcher host = some (collected, ended))
    (failed : collected.status.isSuccess = false) :
    Driver.FailAlike host (session.compile launcher) (session.compile twin) := by
  obtain ⟨other, ranTwin, alike⟩ := compiler_twin resembles ran
  obtain ⟨input, place, -, needed, compiled⟩ := compile_of_compiler ran
  obtain ⟨inputTwin, placeTwin, -, neededTwin, compiledTwin⟩ := compile_of_compiler ranTwin
  cases needed.symm.trans neededTwin
  have notSucceeded : ¬ collected.status.isSuccess = true := by simp [failed]
  rw [if_neg notSucceeded] at compiled
  rw [← alike.status, if_neg notSucceeded] at compiledTwin
  obtain ⟨error, isError, -⟩ := message_compilerError collected
  obtain ⟨errorTwin, isErrorTwin, -⟩ := message_compilerError other
  rw [isError] at compiled
  rw [alike.status, isErrorTwin] at compiledTwin
  exact ⟨error, errorTwin, _, ended, ended, compiled, compiledTwin, rfl, rfl⟩

/-- A session is given up without a look at what was noted. -/
theorem oblivious_close (session : Session) : Oblivious session.close := by
  unfold close
  split
  · exact .value
  · refine (Oblivious.openAs _).bind fun opened => ?_
    split
    · exact .value
    · exact (Oblivious.changed fun _ _ => rfl).bind fun _ => .close _

/-- A call does not look at what the compiler writes to its standard output. -/
theorem compile_twin {twin : Launcher} (resembles : launcher.Resembles (· = .stderr) twin)
    (session : Session) : session.compile twin = session.compile launcher := by
  apply Eq.symm
  apply Abreast.eq
  unfold compile
  split
  · exact .value rfl
  · refine (Abreast.same _).bind ?_
    rintro (error | place) _ rfl
    · exact .value rfl
    · refine Abreast.look ?_
      rintro seen _ rfl
      refine (Abreast.collecting resembles _).bind ?_ seen seen rfl
      rintro _ _ (error | ⟨sameStatus, sameOutput⟩)
      · exact .value rfl
      · dsimp only
        have said := sameOutput .stderr rfl
        dsimp only [PerStream.get] at said
        rw [sameStatus, said]
        exact .same _

/-- A call of a compiler that succeeds passes on what that says. -/
theorem passesOn_compile (ran : session.compiler launcher host = some (collected, ended))
    (succeeded : collected.status.isSuccess = true) :
    host.PassesOn (session.compile launcher host).2 collected.output.stderr := by
  obtain ⟨notes, sameFiles, -⟩ := quiet_compiler ran
  obtain ⟨input, place, -, -, compiled⟩ := compile_of_compiler ran
  rw [compiled, if_pos succeeded]
  by_cases silent : collected.output.stderr = []
  · rw [if_neg (not_not.mpr silent), silent]
    exact ⟨.inl notes.arrivalsSince, fun some => absurd rfl some⟩
  · rw [if_pos silent]
    have written := Plain.writeStream .stderr collected.output.stderr ended trivial
    exact (ended.passesOn_write collected.output.stderr).after sameFiles notes.arrivalsSince
      notes.grown written.1.grown

/-- Nothing that a compiler says gets into the line buffer. -/
theorem lineBuffer_compile (ran : session.compiler launcher host = some (collected, ended)) :
    (session.compile launcher host).2.lineBuffer = host.lineBuffer := by
  obtain ⟨-, -, sameBuffer⟩ := quiet_compiler ran
  obtain ⟨input, place, -, -, compiled⟩ := compile_of_compiler ran
  rw [compiled]
  split
  · dsimp only
    split
    · exact (Stream.heldBack_write (by decide : Stream.stdout ≠ .stderr) _ ended).trans sameBuffer
    · exact sameBuffer
  · exact sameBuffer

/-- What is reported of a compiler that has ended. -/
theorem diagnostics_of_compiler (ran : session.compiler launcher host = some (collected, ended)) :
    session.diagnostics launcher host =
      if collected.status.isSuccess then collected.output.stderr else [] := by
  obtain ⟨input, place, made, parsed, needed, outcome⟩ := collecting_of_compiler ran
  rw [diagnostics, parsed, needed]
  dsimp only
  rw [← invocationInto, outcome]
  rfl

end Session

/-! ## Requests -/

section

variable {driver : Driver Session} {settings : Settings} {before called : Host}

/-- When the compiler is called, standard error is hidden if it is to be and can be, and
otherwise all files are open that were. -/
theorem opened_of_compilingOn {launcher : Launcher} {binary : Path} {session : Session}
    (isCodon : driver.toolchain = toolchain launcher binary)
    (reaches : Driver.compilingOn driver.toolchain settings before = some (session, called)) :
    (Driver.Hides settings before →
      ∃ opening, called.opened Stream.stderr.number = some (.discard opening)) ∧
    (¬ Driver.Hides settings before → called.opened = before.opened) := by
  have tidied : driver.toolchain.Tidy (fun _ _ => False) fun _ => False :=
    isCodon ▸ tidy launcher binary
  have engaged := Driver.isEngaged_engage .stderr settings.quiet before
  rcases Driver.hidden_of_compilingOn tidied reaches with
    ⟨inert, holding⟩ | ⟨copy, file, opening, engages, -, -, holding⟩
  · rw [inert] at engaged
    refine ⟨fun hides => ?_, fun _ => holding.still.1⟩
    cases engaged.mpr hides
  · rw [engages] at engaged
    refine ⟨fun _ => ⟨opening, ?_⟩, fun shown => absurd (engaged.mp rfl) shown⟩
    rw [holding.keeps.kept _ not_false (by simp), Function.update_self]

end

/-- How the diagnostics of a compiler surface that a request calls. -/
structure SurfacesOnce (launcher : Launcher) (driver : Driver Session) (request : Driver.Request)
    (before : Host) (session : Session) (called : Host) (collected : Spawn.Collected) : Prop where
  /-- When the diagnostics are to be hidden and can be, they go to the discard device. -/
  hidden : Driver.Hides request.settings before →
    ∃ opening, called.opened Stream.stderr.number = some (.discard opening)
  /-- Otherwise they go to the standard error of the process. -/
  shown : ¬ Driver.Hides request.settings before → called.opened = before.opened
  /-- A compiler that succeeds has them written there as they are and once. -/
  succeeded : collected.status.isSuccess = true →
    (session.compile launcher called).1.1 = .succeeded ∧
      called.PassesOn (session.compile launcher called).2 collected.output.stderr
  /-- Of a compiler that fails nothing arrives anywhere, and the request fails with its
  complaint. -/
  failed : collected.status.isSuccess = false →
    (session.compile launcher called).2.arrivalsSince called = [] ∧
      (driver.serve request before).1.1 = .returned (.failure (complaint collected))
  /-- Whatever else it had said, the host would be the same after the request, but for the note
  of the error. -/
  untold : collected.status.isSuccess = false →
    ∀ twin : Launcher, launcher.Resembles (fun _ => False) twin →
      (driver.serve request before).2.SameButNotes
        ((driver.compilingWith (Session.compile twin)).serve request before).2
  /-- Whatever else compilers wrote to their standard output, the request would do the same. -/
  unheard : ∀ twin : Launcher, launcher.Resembles (· = .stderr) twin →
    (driver.compilingWith (Session.compile twin)).serve request before =
      driver.serve request before
  /-- Of the whole request of a process at rest just the diagnostics are seen of a compiler that
  has succeeded, unless they are hidden. -/
  told : before.AtRest →
    (∀ stream : Stream, before.opened stream.number = some (.initial stream)) →
    (request.settings.quiet = true → Driver.Hides request.settings before) →
    (∀ settings arguments, request = .run settings arguments → ∀ session timings prepared,
      driver.preparing settings before = (.ok (session, timings), prepared) →
        driver.Captures prepared) →
    ∀ stream, (driver.serve request before).2.received.get stream =
      before.received.get stream ++
        Driver.shown request.settings
          (if collected.status.isSuccess then collected.output.stderr else []) stream
  /-- Nothing that the compiler says gets into the line buffer, from which the texts of the
  result might get it. -/
  buffered : (session.compile launcher called).2.lineBuffer = called.lineBuffer
  /-- The texts of the result are what the program has written that is run, if its output is
  captured, and otherwise empty. -/
  texts : ∀ result, (driver.serve request before).1.1 = .returned result →
    (result.stdout = "" ∧ result.stderr = "") ∨
      ∃ settings arguments session timings prepared, request = .run settings arguments ∧
        driver.preparing settings before = (.ok (session, timings), prepared) ∧
        driver.Captures prepared ∧
        (∀ stream, ∀ piece ∈ session.account launcher
            (Driver.programArguments settings arguments)
            (driver.calledOn settings arguments prepared) stream, piece.writer = .program) ∧
        (before.Fit → (∀ stream : Stream, before.opened stream.number ≠ none) →
          driver.CapturesOutput settings arguments before session timings prepared
            (session.account launcher (Driver.programArguments settings arguments)
              (driver.calledOn settings arguments prepared)))

section

variable {launcher : Launcher} {binary : Path} {driver : Driver Session}
  {before : Host} (isCodon : driver.toolchain = toolchain launcher binary)

include isCodon

/-- A request has captured its program, or it has no texts. -/
theorem texts_of_request (request : Driver.Request) {result : BuildResult}
    (returned : (driver.serve request before).1.1 = .returned result) :
    (result.stdout = "" ∧ result.stderr = "") ∨
      ∃ settings arguments session timings prepared, request = .run settings arguments ∧
        driver.preparing settings before = (.ok (session, timings), prepared) ∧
        driver.Captures prepared := by
  have sound : driver.toolchain.Returns := isCodon ▸ returns launcher binary
  cases request with
  | build settings output =>
      obtain ⟨answers, failure, other, -, walks, ended, reports⟩ :=
        Driver.Concludes.build sound settings output before
      obtain rfl := Ending.returned.inj (returned.symm.trans ended)
      refine .inl (reports.texts fun arguments libs member => ?_)
      have planned := walks.calls_prefix.subset member
      simp [Driver.buildCalls, Driver.preparation] at planned
  | run settings arguments =>
      rcases reached : driver.preparing settings before with
        ⟨stopped | ⟨session, timings⟩, prepared⟩
      · refine .inl (Driver.result_of_unprepared (congrArg Prod.fst reached) ?_)
        rw [Driver.serve, Driver.run_eq, Action.bind_apply, reached] at returned
        exact returned
      · by_cases captures : driver.Captures prepared
        · exact .inr ⟨settings, arguments, session, timings, prepared, rfl, reached, captures⟩
        · have idle : (driver.startCapture prepared).1.1 = false := by
            rw [← Bool.not_eq_true, Driver.startCapture_iff]
            exact captures
          exact .inl (Driver.texts_of_not_captures reached idle returned)

/-- The diagnostics of a compiler surface once.  Whatever a compiler does that a request to run
or to build a program comes to: if it succeeds, its diagnostics are written to standard error, as
they are and once, or to the discard device if the suppressor hides them; if it fails, nothing of
them is seen but the message of the result, which tells them without the white space at their
end, or the status of the compiler if they are blank.  Its standard output is never seen, and
nothing that it says is in the texts of the result. -/
theorem diagnostics_surface_once (request : Driver.Request) {session : Session}
    {called ended : Host} {collected : Spawn.Collected}
    (reaches : Driver.compilingOn driver.toolchain request.settings before = some (session, called))
    (ran : session.compiler launcher called = some (collected, ended)) :
    SurfacesOnce launcher driver request before session called collected := by
  have tidied : driver.toolchain.Tidy (fun _ _ => False) fun _ => False :=
    isCodon ▸ tidy launcher binary
  have sound : driver.toolchain.Returns := isCodon ▸ returns launcher binary
  have quiet : driver.toolchain.Discreet := isCodon ▸ discreet launcher binary
  have speaks : driver.toolchain.Voices (Session.diagnostics launcher) :=
    isCodon ▸ voices launcher binary
  have compiles : driver.toolchain.compile = Session.compile launcher := by
    rw [isCodon]
    rfl
  obtain ⟨hidden, shown⟩ := opened_of_compilingOn isCodon reaches
  obtain ⟨notes, -, -⟩ := Session.quiet_compiler ran
  obtain ⟨input, place, parsed, needed, compiled⟩ := Session.compile_of_compiler ran
  constructor
  · exact hidden
  · exact shown
  · intro succeeded
    refine ⟨?_, Session.passesOn_compile ran succeeded⟩
    rw [compiled, if_pos succeeded]
  · intro failed
    have notSucceeded : ¬ collected.status.isSuccess = true := by simp [failed]
    rw [if_neg notSucceeded] at compiled
    obtain ⟨error, isError, message⟩ := message_compilerError collected
    constructor
    · rw [compiled]
      exact notes.arrivalsSince
    · rw [← message]
      apply Driver.serve_of_failed_compile reaches
      rw [compiles, compiled, isError]
  · intro failed twin resembles
    apply Driver.sameButNotes_of_failAlike reaches
    · intro session
      rw [isCodon]
      exact Session.oblivious_close session
    · rw [compiles]
      exact Session.failAlike_compile resembles ran failed
  · intro twin resembles
    have same : Session.compile twin = driver.toolchain.compile := by
      rw [compiles]
      funext session
      exact Session.compile_twin resembles session
    rw [same]
    rfl
  · intro rest streams hides captures stream
    have seen := Driver.tells_serve speaks sound tidied streams rest hides quiet captures
    rw [seen.received, reaches, Driver.spoken, Session.diagnostics_of_compiler ran]
  · exact Session.lineBuffer_compile ran
  · intro result returned
    rcases texts_of_request isCodon request returned with
      empty | ⟨settings, arguments, last, timings, prepared, isRun, reached, captures⟩
    · exact .inl empty
    · exact .inr ⟨settings, arguments, last, timings, prepared, isRun, reached, captures,
        last.account_programs launcher _ _,
        fun fit isOpen => (captures_program isCodon fit isOpen arguments reached captures).1⟩

end

/-- A compiler that finds an error, of which it prints a character that is none, and that has
something to say on its standard output, too. -/
def brokenLauncher : Launcher := fun _ files =>
  .ok
    { output :=
        [⟨.stdout, Bytes.ofText "compiling", 0⟩, ⟨.stderr, Bytes.ofText "error: " ++ [0xFF], 0⟩,
          ⟨.stderr, Bytes.ofText "\n", 0⟩]
      files
      status := .exited 1 }

/-- The warning of one compiler is written to standard error, and the error of another one is
the message of the result, and nothing else. -/
theorem diagnostics_surface_once_warning_and_error :
    let host := Host.withSource "prog.py"
    let build : Driver.Request := .build exampleSettings (Bytes.ofText "prog")
    let run : Driver.Request := .run exampleSettings []
    let broken : Driver Session := { toolchain := toolchain brokenLauncher exampleBinary }
    (∃ session called collected,
        SurfacesOnce exampleLauncher exampleDriver build host session called collected ∧
        collected.status.isSuccess = true ∧ collected.output.stderr = Bytes.ofText "warning\n") ∧
      (∃ session called collected,
        SurfacesOnce brokenLauncher broken run host session called collected ∧
        collected.status.isSuccess = false ∧ complaint collected = "error: \uFFFD") := by
  intro host build run broken
  have warned : ((Driver.compilingOn exampleDriver.toolchain build.settings host).bind
      fun (session, called) => (session.compiler exampleLauncher called).map
        fun (collected, _) => (collected.status.isSuccess, collected.output.stderr)) =
      some (true, Bytes.ofText "warning\n") := by decide +kernel
  have failed : ((Driver.compilingOn broken.toolchain run.settings host).bind
      fun (session, called) => (session.compiler brokenLauncher called).map
        fun (collected, _) => (collected.status.isSuccess, complaint collected)) =
      some (false, "error: \uFFFD") := by decide +kernel
  obtain ⟨⟨session, called⟩, reaches, ran⟩ := Option.bind_eq_some_iff.mp warned
  obtain ⟨⟨collected, ended⟩, ran, same⟩ := Option.map_eq_some_iff.mp ran
  obtain ⟨⟨other, calledOther⟩, reachesOther, ranOther⟩ := Option.bind_eq_some_iff.mp failed
  obtain ⟨⟨collectedOther, endedOther⟩, ranOther, sameOther⟩ := Option.map_eq_some_iff.mp ranOther
  have surfaces := diagnostics_surface_once rfl build reaches ran
  have surfacesOther := diagnostics_surface_once rfl run reachesOther ranOther
  exact ⟨⟨session, called, collected, surfaces, congrArg Prod.fst same, congrArg Prod.snd same⟩,
    ⟨other, calledOther, collectedOther, surfacesOther, congrArg Prod.fst sameOther,
      congrArg Prod.snd sameOther⟩⟩

end Codon

end CompileDriver
