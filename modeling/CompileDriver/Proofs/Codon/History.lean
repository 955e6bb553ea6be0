import CompileDriver.Proofs.Codon.Session
import CompileDriver.Proofs.Driver.Stretches

/-!
# Histories of Codon sessions

Calls are made on a session in any order, and between them anything may happen to the
process.  Histories have the last call first.

A history tells which plugins were loaded, which input was parsed last and what was
compiled last; `Session.recalled` is the session as the history tells it.  The main
result says that a session is always as its history tells, and that every call does
what is due by the history.  The driver makes no call that would be refused.
-/

namespace CompileDriver.Codon

/-- An occasion for a call: the behaviour of programs and the process at that time. -/
structure Occasion where
  launcher : Launcher
  host : Host
  call : SessionCall

/-- A call on a session with what it has found and what it has left. -/
structure Dealing where
  call : SessionCall
  host : Host
  session : Session
  ended : CallEnd
  later : Session
  left : Host

namespace Dealing

/-- The programs that the call has started and the files that it has copied. -/
def undertaken (dealing : Dealing) : List Event :=
  dealing.left.undertakingsSince dealing.host

/-- The plugin, if the call has loaded one. -/
def loaded? (dealing : Dealing) : Option String :=
  match dealing.call, dealing.ended with
  | .plugin name, .succeeded => some name
  | _, _ => none

/-- The input, if the call has parsed one. -/
def parsed? (dealing : Dealing) : Option Path :=
  match dealing.call, dealing.ended with
  | .parse input, .succeeded => some input
  | _, _ => none

/-- Whether the call was a successful compilation. -/
def hasCompiled (dealing : Dealing) : Bool :=
  dealing.call = .compile ∧ dealing.ended = .succeeded

end Dealing

/-- The plugins that were loaded, in order. -/
def loaded (history : List Dealing) : List String :=
  history.reverse.filterMap Dealing.loaded?

/-- The input of the last call that has parsed one. -/
def lastParsed (history : List Dealing) : Option Path :=
  history.findSome? Dealing.parsed?

/-- The artifact of the last successful compilation, which compiled the input of its time
into `directory`. -/
def lastCompiled (directory : Place) : List Dealing → Option Path
  | [] => none
  | dealing :: earlier =>
      if dealing.hasCompiled then (lastParsed earlier).map (Session.artifactPath directory)
      else lastCompiled directory earlier

namespace Session

/-- Make a call on the session. -/
def deal (session : Session) (occasion : Occasion) : Dealing :=
  let reached := (toolchain occasion.launcher session.binary).perform session occasion.call
    occasion.host
  { call := occasion.call
    host := occasion.host
    session
    ended := reached.1.1
    later := reached.1.2
    left := reached.2 }

/-- A session after calls on it. -/
def afterwards (start : Session) : List Occasion → Session
  | [] => start
  | occasion :: earlier => ((start.afterwards earlier).deal occasion).later

/-- The history of a session. -/
def history (start : Session) : List Occasion → List Dealing
  | [] => []
  | occasion :: earlier => (start.afterwards earlier).deal occasion :: start.history earlier

/-- A new session. -/
def fresh (binary : Path) (settings : Settings) : Session :=
  { binary, settings }

/-- A session that was new once, as its history tells it. -/
def recalled (start : Session) (directory : Place) (history : List Dealing) : Session :=
  { start with
    plugins := loaded history
    input := lastParsed history
    artifact := lastCompiled directory history }

end Session

/-! ## Being as the history tells -/

namespace Session

variable {first second third : Session} {directory : Place}

theorem Alike.trans (start : first.Alike second) (rest : second.Alike third) :
    first.Alike third where
  record := by
    rw [rest.record, start.record]
  scratch place found := rest.scratch place (start.scratch place found)

/-- What is due does not depend on the scratch directory. -/
theorem Alike.due (alike : first.Alike second) (directory : Place) (host : Host)
    (call : SessionCall) :
    second.due directory host call = first.due directory host call := by
  rw [alike.record]
  cases call <;> rfl

@[simp]
theorem scratch_learn (session : Session) (directory : Place) (call : SessionCall) :
    (session.learn directory call).scratch = session.scratch := by
  cases call <;> rfl

theorem Alike.learn (alike : first.Alike second) (directory : Place) (call : SessionCall) :
    (first.learn directory call).Alike (second.learn directory call) := by
  constructor
  · rw [scratch_learn, alike.record]
    cases call <;> rfl
  · simpa using alike.scratch

/-- What a call adds to the record does not depend on the scratch directory. -/
theorem Alike.record_call (alike : first.Alike second) (directory : Place) (call : SessionCall)
    (ended : CallEnd) :
    (if ended = .succeeded then first.learn directory call else first).Alike
      (if ended = .succeeded then second.learn directory call else second) := by
  split
  · exact alike.learn directory call
  · exact alike

/-- What comes of a call keeps the scratch directory. -/
theorem Outcome.scratch {session : Session} {call : SessionCall} {due made : List Event}
    {reached : CallEnd × Session} (outcome : Outcome directory session call due made reached)
    {place : Place} (found : session.scratch = some place) : reached.2.scratch = some place := by
  apply outcome.records.scratch
  split
  · simpa using found
  · exact found

/-- A further call adds to what the history tells if it has succeeded. -/
theorem recalled_cons (start : Session) (dealing : Dealing) (earlier : List Dealing) :
    start.recalled directory (dealing :: earlier) =
      if dealing.ended = .succeeded then
        (start.recalled directory earlier).learn directory dealing.call
      else start.recalled directory earlier := by
  obtain ⟨call, host, session, ended, later, left⟩ := dealing
  cases ended <;> cases call <;>
    simp [recalled, learn, loaded, lastParsed, lastCompiled, List.findSome?_cons, Dealing.loaded?,
      Dealing.parsed?, Dealing.hasCompiled]

/-! ### What is due -/

variable {session : Session} {host : Host} {call : SessionCall} {due : List Event}

/-- Programs are due for compilations and for runs, copies are due for writing out. -/
theorem due_cases (isDue : session.due directory host call = .ok due) :
    due = [] ∨
      (call = .compile ∧ ∃ input, session.input = some input ∧
        due = [.launched (session.compilerInvocation host (buildArguments session.settings
          session.plugins input (artifactPath directory input)))]) ∨
      (∃ arguments libs artifact, call = .run arguments libs ∧ session.artifact = some artifact ∧
        due = [.launched { programInvocation host artifact arguments with
          closed := Spawn.closedStreams host }]) ∨
      ∃ output options artifact, call = .link output options ∧
        session.artifact = some artifact ∧ due = [.copied artifact output] := by
  unfold Session.due at isDue
  split at isDue
  · cases isDue
    exact .inl rfl
  · cases isDue
    exact .inl rfl
  · cases isDue
    exact .inl rfl
  · split at isDue
    · cases isDue
    · rename_i input parsed
      cases isDue
      exact .inr (.inl ⟨rfl, input, parsed, rfl⟩)
  · split at isDue
    · cases isDue
    · rename_i arguments libs _ artifact compiled
      cases isDue
      exact .inr (.inr (.inl ⟨arguments, libs, artifact, rfl, compiled, rfl⟩))
  · split at isDue
    · cases isDue
    · split at isDue
      · cases isDue
      · rename_i output options _ _ artifact compiled
        cases isDue
        exact .inr (.inr (.inr ⟨output, options, artifact, rfl, compiled, rfl⟩))

/-- Calls are refused for misuse. -/
theorem isMisuse_of_refused {refusal : CallEnd}
    (isRefused : session.due directory host call = .error refusal) : IsMisuse refusal := by
  unfold Session.due at isRefused
  split at isRefused
  · cases isRefused
  · cases isRefused
  · cases isRefused
  · split at isRefused <;> cases isRefused
    exact .inl rfl
  · split at isRefused <;> cases isRefused
    exact .inr (.inl rfl)
  · split at isRefused
    · cases isRefused
      exact .inr (.inr rfl)
    · split at isRefused <;> cases isRefused
      exact .inr (.inl rfl)

end Session

/-! ## Sound calls -/

/-- A call that is right by the calls before it, on a session that was new as `start` and
whose artifacts go into `directory`. -/
structure Dealing.Sound (start : Session) (directory : Place) (earlier : List Dealing)
    (dealing : Dealing) : Prop where
  /-- The session has recorded what its history tells. -/
  recorded : dealing.session =
    { start.recalled directory earlier with scratch := dealing.session.scratch }
  /-- There is one scratch directory for all compilations. -/
  scratch : ∀ place, dealing.later.scratch = some place → place = directory
  /-- The call does what is due by the history, or nothing. -/
  undertakes : dealing.undertaken = [] ∨
    (start.recalled directory earlier).due directory dealing.host dealing.call =
      .ok dealing.undertaken
  /-- The compiler is started for the input that was parsed last, a program for the artifact
  that was compiled last. -/
  launched : ∀ invocation, .launched invocation ∈ dealing.undertaken →
    (dealing.call = .compile ∧ ∃ input, lastParsed earlier = some input ∧
      invocation = start.compilerInvocation dealing.host (buildArguments start.settings
        (loaded earlier) input (Session.artifactPath directory input))) ∨
    ∃ arguments libs artifact, dealing.call = .run arguments libs ∧
      lastCompiled directory earlier = some artifact ∧
      invocation = { Session.programInvocation dealing.host artifact arguments with
        closed := Spawn.closedStreams dealing.host }
  /-- What is copied is the artifact that was compiled last. -/
  copied : ∀ source target, .copied source target ∈ dealing.undertaken →
    lastCompiled directory earlier = some source ∧ ∃ options, dealing.call = .link target options
  /-- A call that succeeds has done all that is due. -/
  succeeds : dealing.ended = .succeeded →
    (start.recalled directory earlier).due directory dealing.host dealing.call =
      .ok dealing.undertaken
  /-- A call that fails leaves the record as it is. -/
  fails : dealing.ended ≠ .succeeded →
    dealing.later.plugins = dealing.session.plugins ∧
      dealing.later.input = dealing.session.input ∧
      dealing.later.artifact = dealing.session.artifact
  /-- A call that is refused by the record fails so and does nothing. -/
  refused : ∀ refusal,
    (start.recalled directory earlier).due directory dealing.host dealing.call =
      .error refusal →
    dealing.ended = refusal ∧ dealing.later = dealing.session ∧ dealing.left = dealing.host
  /-- No other call fails for misuse. -/
  misused : IsMisuse dealing.ended →
    (start.recalled directory earlier).due directory dealing.host dealing.call =
      .error dealing.ended

namespace Dealing

variable {start : Session} {directory : Place} {earlier : List Dealing} {dealing : Dealing}

/-- A call that is refused is sound. -/
theorem sound_of_refused {refusal : CallEnd}
    (recorded : (start.recalled directory earlier).Alike dealing.session)
    (within : ∀ place, dealing.later.scratch = some place → place = directory)
    (isRefused : (start.recalled directory earlier).due directory dealing.host dealing.call =
      .error refusal)
    (ended : dealing.ended = refusal) (later : dealing.later = dealing.session)
    (left : dealing.left = dealing.host) : dealing.Sound start directory earlier := by
  have nothing : dealing.undertaken = [] := by
    rw [undertaken, left]
    exact (Host.Undertakes.refl dealing.host).events
  have failed : dealing.ended ≠ .succeeded := by
    rintro succeeded
    rw [← ended, succeeded] at isRefused
    exact not_isMisuse_succeeded (Session.isMisuse_of_refused isRefused)
  exact
    { recorded := recorded.record
      scratch := within
      undertakes := .inl nothing
      launched := by simp [nothing]
      copied := by simp [nothing]
      succeeds := fun succeeded => absurd succeeded failed
      fails := by simp [later]
      refused := by
        intro other same
        rw [isRefused] at same
        cases same
        exact ⟨ended, later, left⟩
      misused := fun _ => ended ▸ isRefused }

/-- So is a call from which comes what should. -/
theorem sound_of_outcome {due : List Event}
    (recorded : (start.recalled directory earlier).Alike dealing.session)
    (within : ∀ place, dealing.later.scratch = some place → place = directory)
    (isDue : (start.recalled directory earlier).due directory dealing.host dealing.call = .ok due)
    (outcome : dealing.session.Outcome directory dealing.call due dealing.undertaken
      (dealing.ended, dealing.later)) : dealing.Sound start directory earlier where
  recorded := recorded.record
  scratch := within
  undertakes := by
    rcases outcome.undertaken.atMost with nothing | all
    · exact .inl nothing
    · exact .inr (all ▸ isDue)
  launched := by
    intro invocation member
    rcases Session.due_cases isDue with
      rfl | ⟨called, input, parsed, rfl⟩ | ⟨arguments, libs, artifact, called, compiled, rfl⟩ |
      ⟨output, options, artifact, called, compiled, rfl⟩
    · cases outcome.undertaken.mem_due member
    · cases List.mem_singleton.mp (outcome.undertaken.mem_due member)
      exact .inl ⟨called, input, parsed, rfl⟩
    · cases List.mem_singleton.mp (outcome.undertaken.mem_due member)
      exact .inr ⟨arguments, libs, artifact, called, compiled, rfl⟩
    · cases List.mem_singleton.mp (outcome.undertaken.mem_due member)
  copied := by
    intro source target member
    rcases Session.due_cases isDue with
      rfl | ⟨called, input, parsed, rfl⟩ | ⟨arguments, libs, artifact, called, compiled, rfl⟩ |
      ⟨output, options, artifact, called, compiled, rfl⟩
    · cases outcome.undertaken.mem_due member
    · cases List.mem_singleton.mp (outcome.undertaken.mem_due member)
    · cases List.mem_singleton.mp (outcome.undertaken.mem_due member)
    · cases List.mem_singleton.mp (outcome.undertaken.mem_due member)
      exact ⟨compiled, options, called⟩
  succeeds succeeded := by
    rw [isDue, outcome.undertaken.atLeast succeeded]
  fails failed := by
    have kept := outcome.records.record
    rw [if_neg failed] at kept
    dsimp only at kept
    rw [kept]
    exact ⟨rfl, rfl, rfl⟩
  refused refusal isRefused := by
    rw [isDue] at isRefused
    cases isRefused
  misused isMisuse := absurd isMisuse outcome.proper

end Dealing

namespace Session

variable {start session : Session} {directory : Place} {earlier : List Dealing}

/-- A further call on a session that is as its history tells is sound, and the session stays
so. -/
theorem sound_deal (recorded : (start.recalled directory earlier).Alike session)
    (occasion : Occasion)
    (within : ∀ place, (session.deal occasion).later.scratch = some place → place = directory) :
    (session.deal occasion).Sound start directory earlier ∧
      (start.recalled directory (session.deal occasion :: earlier)).Alike
        (session.deal occasion).later := by
  have performed := performs occasion.launcher session.binary session directory occasion.call
    occasion.host within
  have same := recorded.due directory occasion.host occasion.call
  rw [Session.recalled_cons]
  cases isDue : session.due directory occasion.host occasion.call with
  | error refusal =>
      have nothing := performed.refused refusal isDue
      rw [same] at isDue
      have failed : refusal ≠ .succeeded := by
        rintro rfl
        exact not_isMisuse_succeeded (isMisuse_of_refused isDue)
      have ended : (session.deal occasion).ended = refusal := congrArg (fun r => r.1.1) nothing
      have later : (session.deal occasion).later = session := congrArg (fun r => r.1.2) nothing
      have left : (session.deal occasion).left = occasion.host := congrArg Prod.snd nothing
      constructor
      · exact Dealing.sound_of_refused recorded within isDue ended later left
      · rw [if_neg (ended ▸ failed), later]
        exact recorded
  | ok due =>
      obtain ⟨made, undertakes, outcome⟩ := performed.ventures due isDue
      rw [same] at isDue
      rw [← undertakes.events] at outcome
      constructor
      · exact Dealing.sound_of_outcome recorded within isDue outcome
      · exact (recorded.record_call directory occasion.call _).trans outcome.records

/-- A session keeps the scratch directory that it has come to. -/
theorem scratch_deal (session : Session) (occasion : Occasion) {place : Place}
    (found : session.scratch = some place) :
    (session.deal occasion).later.scratch = some place := by
  obtain ⟨directory, performed⟩ :=
    performs_somewhere occasion.launcher session.binary session occasion.call occasion.host
  cases isDue : session.due directory occasion.host occasion.call with
  | error refusal =>
      have later : (session.deal occasion).later = session :=
        congrArg (fun reached => reached.1.2) (performed.refused refusal isDue)
      rw [later, found]
  | ok due =>
      obtain ⟨made, -, outcome⟩ := performed.ventures due isDue
      exact outcome.scratch found

/-! ### Whole histories -/

/-- Whatever is called on a new session, the session is as its history tells, and every call
is sound. -/
theorem sound_history (binary : Path) (settings : Settings) (directory : Place)
    (occasions : List Occasion)
    (within : ∀ place, ((fresh binary settings).afterwards occasions).scratch = some place →
      place = directory) :
    ((fresh binary settings).recalled directory ((fresh binary settings).history occasions)).Alike
        ((fresh binary settings).afterwards occasions) ∧
      ∀ dealing earlier,
        dealing :: earlier <:+ (fresh binary settings).history occasions →
          dealing.Sound (fresh binary settings) directory earlier := by
  induction occasions with
  | nil =>
      constructor
      · exact .refl _
      · intro dealing earlier isSuffix
        cases List.suffix_nil.mp isSuffix
  | cons occasion earlier ih =>
      have before : ∀ place,
          ((fresh binary settings).afterwards earlier).scratch = some place → place = directory :=
        fun place found => within place (scratch_deal _ occasion found)
      obtain ⟨recorded, sound⟩ := ih before
      obtain ⟨here, later⟩ := sound_deal recorded occasion within
      constructor
      · exact later
      · intro dealing rest isSuffix
        rcases List.suffix_cons_iff.mp isSuffix with same | isEarlier
        · cases same
          exact here
        · exact sound dealing rest isEarlier

end Session

end CompileDriver.Codon
