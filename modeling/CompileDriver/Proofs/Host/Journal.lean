import CompileDriver.Host.Journal
import CompileDriver.Proofs.Host.Steps

/-!
# Views of a growing journal

As long as the journal only grows, what was noted between two states and what
was noted later add up, for the whole history and for each of its views.

`Answered` describes a stretch of the history by the calls on sessions that were
made and answered in it, one after the other.  Steps of the process make no such
calls.
-/

namespace CompileDriver

namespace Host

/-! ## Histories -/

theorem historySince_of_journal {before after : Host} {moments : List Moment}
    (grown : after.journal = moments ++ before.journal) :
    after.historySince before = moments.reverse := by
  simp [historySince, history, grown]

variable {first second third : Host}

theorem historySince_trans (start : first.journal <:+ second.journal)
    (rest : second.journal <:+ third.journal) :
    third.historySince first = second.historySince first ++ third.historySince second := by
  obtain ⟨early, earlyGrown⟩ := start
  obtain ⟨late, lateGrown⟩ := rest
  rw [historySince_of_journal earlyGrown.symm, historySince_of_journal lateGrown.symm,
    ← List.reverse_append]
  apply historySince_of_journal
  rw [← lateGrown, ← earlyGrown, List.append_assoc]

theorem deliveredSince_trans (start : first.journal <:+ second.journal)
    (rest : second.journal <:+ third.journal) (number : Nat) :
    third.deliveredSince first number =
      second.deliveredSince first number ++ third.deliveredSince second number := by
  simp only [deliveredSince, historySince_trans start rest, List.flatMap_append]

theorem callsSince_trans (start : first.journal <:+ second.journal)
    (rest : second.journal <:+ third.journal) :
    third.callsSince first = second.callsSince first ++ third.callsSince second := by
  simp only [callsSince, historySince_trans start rest, List.filterMap_append]

theorem answersSince_trans (start : first.journal <:+ second.journal)
    (rest : second.journal <:+ third.journal) :
    third.answersSince first = second.answersSince first ++ third.answersSince second := by
  simp only [answersSince, historySince_trans start rest, List.filterMap_append]

/-! ## Quiet stretches -/

/-- What was noted between two states has nothing to do with sessions. -/
def Quiet (before after : Host) : Prop :=
  ∃ moments, after.journal = moments ++ before.journal ∧
    ∀ moment ∈ moments, moment.event.isRoutine = true

theorem Quiet.refl (host : Host) : Quiet host host :=
  ⟨[], rfl, by simp⟩

theorem Quiet.of_journal {before after : Host} (same : after.journal = before.journal) :
    Quiet before after :=
  ⟨[], same, by simp⟩

theorem Quiet.trans (start : Quiet first second) (rest : Quiet second third) :
    Quiet first third := by
  obtain ⟨early, earlyGrown, earlyRoutine⟩ := start
  obtain ⟨late, lateGrown, lateRoutine⟩ := rest
  refine ⟨late ++ early, by rw [lateGrown, earlyGrown, List.append_assoc], ?_⟩
  intro moment member
  rcases List.mem_append.mp member with isLate | isEarly
  · exact lateRoutine moment isLate
  · exact earlyRoutine moment isEarly

theorem Quiet.note (host : Host) {event : Event} (routine : event.isRoutine = true) :
    Quiet host (host.note event) :=
  ⟨[{ event, table := host.table }], rfl, by simpa using routine⟩

theorem journal_deliver (host : Host) (file : OpenFile) (bytes : Bytes) :
    (host.deliver file bytes).2.journal = host.journal := by
  rcases host.deliver_cases file bytes with ⟨pipe, -, fed⟩ | ⟨_, _, ran⟩
  · rw [fed, (fed_feed pipe host bytes).rest]
  · exact ran.journal

theorem Utterance.quiet {foreign : Nat → Prop} {before after : Host}
    (utterance : Utterance foreign before after) : Quiet before after := by
  cases utterance with
  | turn => exact .of_journal (readersRan_takeTurn before).journal
  | note routine => exact .note before routine
  | deliver own found bytes => exact .of_journal (journal_deliver before _ bytes)
  | lineBuffer | buffers => exact .of_journal rfl

theorem Step.quiet {foreign : Nat → Prop} {before after : Host}
    (step : Step foreign before after) : Quiet before after := by
  cases step with
  | utter utterance => exact utterance.quiet
  | startReader started =>
      unfold Host.startReader at started
      split at started <;> cases started
      exact .of_journal rfl
  | join thread => exact .of_journal (readersRan_await before _).journal
  | refusals | occupy | pointTo | close | addPipe | opened | askToStop | measured =>
      exact .of_journal rfl

theorem Steps.quiet {foreign : Nat → Prop} {before after : Host}
    (steps : Steps foreign before after) : Quiet before after := by
  induction steps with
  | refl => exact .refl _
  | tail _ step ih => exact ih.trans step.quiet

/-! ## Answered calls -/

/-- Between two states exactly the calls of `answers` were made, and each of them
returned with the error that stands next to it. -/
structure Answered (before after : Host)
    (answers : List (SessionCall × Option ToolchainError)) : Prop where
  grown : before.journal <:+ after.journal
  calls : after.callsSince before = answers.map Prod.fst
  answers : after.answersSince before = answers

theorem calls_of_routine {moments : List Moment}
    (routine : ∀ moment ∈ moments, moment.event.isRoutine = true) :
    moments.filterMap Moment.call? = [] := by
  rw [List.filterMap_eq_nil_iff]
  intro moment member
  have silent := routine moment member
  unfold Moment.call?
  split
  · simp_all [Event.isRoutine]
  · rfl

theorem answers_of_routine {moments : List Moment}
    (routine : ∀ moment ∈ moments, moment.event.isRoutine = true) :
    moments.filterMap Moment.answer? = [] := by
  rw [List.filterMap_eq_nil_iff]
  intro moment member
  have silent := routine moment member
  unfold Moment.answer?
  split
  · simp_all [Event.isRoutine]
  · rfl

namespace Answered

theorem of_quiet {before after : Host} (quiet : Quiet before after) :
    Answered before after [] := by
  obtain ⟨moments, grown, routine⟩ := quiet
  have reversed : ∀ moment ∈ moments.reverse, moment.event.isRoutine = true :=
    fun moment member => routine moment (List.mem_reverse.mp member)
  refine ⟨⟨moments, grown.symm⟩, ?_, ?_⟩
  · rw [callsSince, historySince_of_journal grown, calls_of_routine reversed, List.map_nil]
  · rw [answersSince, historySince_of_journal grown, answers_of_routine reversed]

theorem trans {early late : List (SessionCall × Option ToolchainError)}
    (start : Answered first second early) (rest : Answered second third late) :
    Answered first third (early ++ late) where
  grown := start.grown.trans rest.grown
  calls := by
    rw [callsSince_trans start.grown rest.grown, start.calls, rest.calls, List.map_append]
  answers := by
    rw [answersSince_trans start.grown rest.grown, start.answers, rest.answers]

/-- A call that is made, does nothing that concerns sessions and returns. -/
theorem of_call (before : Host) (call : SessionCall) {returned : Host}
    (quiet : Quiet (before.note (.sessionCall call)) returned)
    (failure : Option ToolchainError) :
    Answered before (returned.note (.sessionReturn call failure)) [(call, failure)] := by
  obtain ⟨moments, grown, routine⟩ := quiet
  have reversed : ∀ moment ∈ moments.reverse, moment.event.isRoutine = true :=
    fun moment member => routine moment (List.mem_reverse.mp member)
  have whole : (returned.note (.sessionReturn call failure)).journal =
      { event := .sessionReturn call failure, table := returned.table } ::
        (moments ++ [{ event := .sessionCall call, table := before.table }]) ++
        before.journal := by
    simp [note, grown]
  refine ⟨⟨_, whole.symm⟩, ?_, ?_⟩
  · rw [callsSince, historySince_of_journal whole]
    simp [calls_of_routine reversed, Moment.call?]
  · rw [answersSince, historySince_of_journal whole]
    simp [List.filterMap_cons, answers_of_routine reversed, Moment.answer?]

end Answered

end Host

/-! ## Silent actions -/

variable {α : Type}

/-- To note nothing about sessions. -/
def silence : Discipline where
  needs _ := True
  allows := Host.Quiet
  refl := .refl
  trans := .trans
  keeps _ _ := trivial

/-- Whatever the host, the action notes nothing about sessions, and its value is
of a certain kind. -/
abbrev Silent (action : Action α) (yields : α → Prop) : Prop :=
  silence.Governs action yields

theorem Spares.silent {action : Action α} {yields : α → Prop}
    (spares : Spares (fun _ => False) action yields) : Silent action yields :=
  spares.relax (fun _ _ _ isForeign => isForeign.elim) fun _ _ steps => steps.quiet

theorem Silent.answered {action : Action α} {yields : α → Prop} (silent : Silent action yields)
    (host : Host) : host.Answered (action host).2 [] :=
  .of_quiet (silent host trivial).1

end CompileDriver
