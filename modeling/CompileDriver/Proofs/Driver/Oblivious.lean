import CompileDriver.Proofs.Action
import CompileDriver.Proofs.Driver.Telling
import CompileDriver.Proofs.Host.Arrivals
import CompileDriver.Proofs.Host.Oblivious

/-!
# Errors are told in the result only

The error of a compiler that fails is noted in the journal, and makes the message of the
result.  The rest of the request does not look at it: with another compiler that fails after
the same deeds, everything is left the same, but for that note.
-/

namespace CompileDriver

variable {σ α : Type}

/-! ## Other notes -/

namespace Host

/-- The hosts are the same but for what is noted, and the same has arrived on both. -/
structure SameButNotes (one two : Host) : Prop where
  same : { two with journal := one.journal } = one
  arrivals : one.journal.map Moment.arrival? = two.journal.map Moment.arrival?

namespace SameButNotes

variable {one two : Host}

/-- Nothing arrives by two notes. -/
theorem note (alike : one.SameButNotes two) (event other : Event)
    (silent : ∀ table, Moment.arrival? { event, table } = none)
    (silentOther : ∀ table, Moment.arrival? { event := other, table } = none) :
    (one.note event).SameButNotes (two.note other) := by
  obtain ⟨same, arrivals⟩ := alike
  constructor
  · rw [← same]
    rfl
  · simp only [Host.note, List.map_cons, silent, silentOther, arrivals]

end SameButNotes

end Host

/-- An action that does not read the journal does the same with other notes in it. -/
theorem Oblivious.abreast {action : Action α} (oblivious : Oblivious action) :
    Abreast Host.SameButNotes action action Eq := by
  rintro one two ⟨same, arrivals⟩
  have split (host : Host) : host = ({ host with journal := [] } : Host).withPast host.journal :=
    rfl
  have bare : ({ one with journal := [] } : Host) = { two with journal := [] } := by rw [← same]
  rw [split one, split two, bare, AbreastAt, oblivious, oblivious]
  refine ⟨⟨rfl, ?_⟩, rfl⟩
  simp only [List.map_append, arrivals]

namespace Oblivious

theorem restoreScope (scope : Scope) : Oblivious scope.restore := by
  unfold Scope.restore
  split
  · exact .value
  · exact (flush scope.stream).bind fun _ => (giveBack _ _).discarded.bind fun _ =>
      (close _).bind fun _ => .value

theorem restoreSuppressor (suppressor : Suppressor) : Oblivious suppressor.restore := by
  unfold Suppressor.restore
  split
  · exact .value
  · exact (restoreScope _).discarded.bind fun _ => .value

theorem reportTimings (timings : Timings) : Oblivious (Driver.reportTimings timings) := by
  refine (isEnabled .debug).bind fun enabled => ?_
  split
  · exact .each fun _ => debug _
  · exact .value

end Oblivious

namespace Driver

/-! ## Failing alike -/

/-- On one host two actions fail, with whatever errors, and leave the same besides, but for what
is noted. -/
def FailAlike (host : Host) (action twin : Action (CallEnd × α)) : Prop :=
  ∃ error errorTwin rest one two, action host = ((.failed error, rest), one) ∧
    twin host = ((.failed errorTwin, rest), two) ∧ one.SameButNotes two

variable {host : Host} {phase twin : Action (CallEnd × σ)}

theorem FailAlike.calling {call : SessionCall}
    (fail : FailAlike (host.note (.sessionCall call)) phase twin) :
    FailAlike host (calling call phase) (calling call twin) := by
  have start (action : Action (CallEnd × σ)) : Driver.calling call action host =
      (action >>= fun reached => do
        returned call reached.1
        return reached) (host.note (.sessionCall call)) := rfl
  obtain ⟨error, errorTwin, session, one, two, ran, ranTwin, alike⟩ := fail
  refine ⟨error, errorTwin, session, _, _, ?_, ?_,
    alike.note (.sessionReturn call (some error)) (.sessionReturn call (some errorTwin))
      (fun _ => rfl) fun _ => rfl⟩
  · rw [start, Action.bind_apply, ran]
    rfl
  · rw [start, Action.bind_apply, ranTwin]
    rfl

/-- Two phases that fail alike take the same time. -/
theorem FailAlike.timed (fail : FailAlike host phase twin) (name : String) (timings : Timings) :
    FailAlike host (timed name timings phase) (timed name timings twin) := by
  have looked : (Log.isEnabled .debug host).2 = host := rfl
  obtain ⟨error, errorTwin, session, one, two, ran, ranTwin, alike⟩ := fail
  unfold FailAlike Driver.timed
  simp only [Action.bind_apply, looked]
  cases (Log.isEnabled .debug host).1 with
  | false =>
      simp only [Bool.false_eq_true, if_false, Action.bind_apply, ran, ranTwin]
      exact ⟨error, errorTwin, (session, timings), one, two, rfl, rfl, alike⟩
  | true =>
      obtain ⟨stillAlike, sameTime⟩ := Oblivious.elapsed.abreast one two alike
      simp only [if_true, Action.bind_apply, ran, ranTwin, ← sameTime]
      exact ⟨error, errorTwin, _, _, _, rfl, rfl, stillAlike⟩

end Driver

/-! ## Other compilers -/

namespace Driver

/-- The driver with another compiler. -/
def compilingWith (driver : Driver σ) (compile : σ → Action (CallEnd × σ)) : Driver σ :=
  { driver with toolchain := { driver.toolchain with compile } }

section

variable (driver : Driver σ) (compile : σ → Action (CallEnd × σ)) (settings : Settings)

theorem loadPlugins_compilingWith (session : σ) (names : List String) :
    loadPlugins (driver.compilingWith compile).toolchain session names =
      loadPlugins driver.toolchain session names := by
  induction names generalizing session with
  | nil => rfl
  | cons name rest ih =>
      simp only [loadPlugins, ih]
      rfl

/-- A request comes to its compiler without it. -/
theorem approaching_compilingWith (session : σ) :
    approaching (driver.compilingWith compile).toolchain settings session =
      approaching driver.toolchain settings session := by
  rw [approaching, loadPlugins_compilingWith]
  rfl

variable {driver compile settings} {before called : Host} {session : σ}

/-- A program is prepared alike by two compilers that fail alike. -/
theorem FailAlike.prepare {first : σ} {created : Host}
    (reaches : compilingFrom driver.toolchain settings first created = some (session, called))
    (fail : FailAlike called (driver.toolchain.compile session) (compile session)) :
    FailAlike created (prepare driver.toolchain settings first)
      (prepare (driver.compilingWith compile).toolchain settings first) := by
  rw [prepare_eq, prepare_eq, approaching_compilingWith]
  unfold FailAlike
  rw [Action.bind_apply, Action.bind_apply]
  unfold compilingFrom at reaches
  rcases came : approaching driver.toolchain settings first created with
    ⟨stopped | ⟨reached, timings⟩, approached⟩
  all_goals rw [came] at reaches
  · cases reaches
  · cases reaches
    exact fail.calling.timed "compile" timings

/-- What is left to do for a request whose compiler has failed does not depend on the error. -/
theorem closing_sameButNotes {ρ : Type} {suppressor : Suppressor} {timings : Timings}
    (closes : Oblivious (driver.toolchain.close session)) (last lastTwin : ρ) :
    Abreast Host.SameButNotes
      (do discard suppressor.restore
          reportTimings timings
          driver.toolchain.close session
          return last)
      (do discard suppressor.restore
          reportTimings timings
          driver.toolchain.close session
          return lastTwin) fun _ _ => True := by
  have restored := (Oblivious.restoreSuppressor suppressor).discarded.abreast
  have reported := (Oblivious.reportTimings timings).abreast
  exact restored.bind fun _ _ _ => reported.bind fun _ _ _ => closes.abreast.bind fun _ _ _ =>
    .value trivial

/-- The error of a compiler is told in the result only: two requests whose compilers fail alike
leave the host the same but for what is noted. -/
theorem sameButNotes_of_failAlike {request : Request}
    (reaches : compilingOn driver.toolchain request.settings before = some (session, called))
    (closes : ∀ session, Oblivious (driver.toolchain.close session))
    (fail : FailAlike called (driver.toolchain.compile session) (compile session)) :
    (driver.serve request before).2.SameButNotes
      ((driver.compilingWith compile).serve request before).2 := by
  obtain ⟨first, created, outcome, comes⟩ := created_of_compilingOn reaches
  have sameCreation : create (driver.compilingWith compile).toolchain = create driver.toolchain :=
    rfl
  obtain ⟨error, errorTwin, ⟨last, timings⟩, one, two, prepared, preparedTwin, alike⟩ :=
    fail.prepare comes
  cases request with
  | run settings arguments =>
      dsimp only [Request.settings] at outcome prepared preparedTwin
      rw [serve, serve, run, run, sameCreation]
      simp only [Action.bind_apply, outcome, prepared, preparedTwin]
      exact (closing_sameButNotes (closes last) _ _ one two alike).1
  | build settings output =>
      dsimp only [Request.settings] at outcome prepared preparedTwin
      rw [serve, serve, build, build, sameCreation]
      simp only [Action.bind_apply, outcome, link, prepared, preparedTwin]
      exact (closing_sameButNotes (closes last) _ _ one two alike).1

end

end Driver

end CompileDriver
