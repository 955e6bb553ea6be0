import CompileDriver.Proofs.Driver.Prepared

/-!
# Requests within a discipline

A discipline that lets a driver serve its sessions, and that the calls of its toolchain are
within, governs whole requests, however they end.  One such discipline is to grow older:
pipes and threads are only added, and the moves that are to come have been to come before.
-/

namespace CompileDriver

variable {σ : Type} {owns : σ → Nat → Prop}

/-- A discipline that lets a driver perform requests: besides what is done between the calls,
the calls themselves are within it, and so is taking note of them. -/
structure Discipline.LetsPerform (discipline : Discipline) (toolchain : Toolchain σ) : Prop
    extends discipline.LetsServe where
  note : ∀ (host : Host) event, discipline.allows host (host.note event)
  create : ∀ settings, discipline.Governs (toolchain.createSession settings) fun _ => True
  call : ∀ session call, discipline.Governs (toolchain.perform session call) fun _ => True
  close : ∀ session, discipline.Governs (toolchain.close session) fun _ => True

namespace Discipline.LetsPerform

open Driver

variable {discipline : Discipline} {driver : Driver σ}
  (letsPerform : discipline.LetsPerform driver.toolchain)

include letsPerform

/-! ## Calls -/

theorem returned (call : SessionCall) (ended : CallEnd) :
    discipline.Governs (returned call ended) fun _ => True := by
  cases ended with
  | succeeded => exact .changed fun host => letsPerform.note host _
  | failed error => exact .changed fun host => letsPerform.note host _
  | panicked panic => exact .value trivial

theorem calling (session : σ) (call : SessionCall) :
    discipline.Governs (calling call (driver.toolchain.perform session call)) fun _ => True := by
  refine (Governs.changed fun host => letsPerform.note host _).bind fun _ _ => ?_
  refine (letsPerform.call session call).bind fun reached _ => ?_
  exact (letsPerform.returned call reached.1).bind fun _ _ => .value trivial

theorem created (settings : Settings) :
    discipline.Governs (Driver.create driver.toolchain settings) fun _ => True := by
  refine (Governs.changed fun host => letsPerform.note host _).bind fun _ _ => ?_
  refine (letsPerform.create settings).bind fun outcome _ => ?_
  cases outcome with
  | error panic => exact .value trivial
  | ok session => exact (letsPerform.returned _ .succeeded).bind fun _ _ => .value trivial

/-! ## Phases -/

theorem timed {phase : Action (CallEnd × σ)} (governs : discipline.Governs phase fun _ => True)
    (name : String) (timings : Timings) :
    discipline.Governs (timed name timings phase) fun _ => True := by
  have looked : discipline.Governs (Log.isEnabled .debug) fun _ => True :=
    fun host _ => ⟨discipline.refl host, trivial⟩
  have measured : discipline.Governs SystemCall.elapsed fun _ => True :=
    letsPerform.spares Spares.elapsed
  refine looked.bind fun enabled _ => ?_
  split
  · refine governs.bind fun reached _ => ?_
    obtain ⟨_ | error | panic, session⟩ := reached
    · exact measured.bind fun _ _ => .value trivial
    · exact measured.bind fun _ _ => .value trivial
    · exact .value trivial
  · exact governs.bind fun _ _ => .value trivial

theorem loadPlugins (names : List String) (session : σ) :
    discipline.Governs (loadPlugins driver.toolchain session names) fun _ => True := by
  induction names generalizing session with
  | nil => exact .value trivial
  | cons name rest ih =>
      refine (letsPerform.calling session (.plugin name)).bind fun reached _ => ?_
      obtain ⟨_ | error | panic, session⟩ := reached
      · exact ih session
      · exact .value trivial
      · exact .value trivial

theorem prepare (settings : Settings) (session : σ) :
    discipline.Governs (prepare driver.toolchain settings session) fun _ => True := by
  refine (letsPerform.timed (letsPerform.loadPlugins settings.plugins session) _ _).bind
    fun loaded _ => ?_
  obtain ⟨_ | error | panic, session, timings⟩ := loaded
  · refine (letsPerform.timed (letsPerform.calling session (.parse settings.input)) _ _).bind
      fun parsed _ => ?_
    obtain ⟨_ | error | panic, session, timings⟩ := parsed
    · exact letsPerform.timed (letsPerform.calling session .compile) _ _
    · exact .value trivial
    · exact .value trivial
  · exact .value trivial
  · exact .value trivial

theorem link (settings : Settings) (output : Path) (session : σ) :
    discipline.Governs (driver.link settings output session) fun _ => True := by
  refine (letsPerform.prepare settings session).bind fun prepared _ => ?_
  obtain ⟨_ | error | panic, session, timings⟩ := prepared
  · exact letsPerform.timed (letsPerform.calling session _) _ _
  · exact .value trivial
  · exact .value trivial

/-! ## Ends -/

theorem closed {ρ : Type} (session : σ) (timings : Timings) (last : ρ) :
    discipline.Governs
      (do reportTimings timings
          driver.toolchain.close session
          return last) fun _ => True :=
  (letsPerform.reportTimings timings).bind fun _ _ =>
    (letsPerform.close session).bind fun _ _ => .value trivial

theorem unwound (suppressor : Suppressor) (session : σ) (panic : Panic) :
    discipline.Governs
      (unwind panic do
        driver.toolchain.close session
        discard suppressor.restore) fun _ => True :=
  letsPerform.unwind panic ((letsPerform.close session).bind fun _ _ =>
    letsPerform.restoreSuppressor suppressor)

theorem concluding (capturing : Bool) (capture : Capture) (reached : CallEnd × σ × Timings) :
    discipline.Governs (driver.concluding capturing capture reached) fun _ => True := by
  obtain ⟨ended, session, timings⟩ := reached
  have collected (last : CapturedOutput → Ending BuildResult × Timings) :
      discipline.Governs
        (do let output ← if capturing then capture.intoOutput else pure {}
            reportTimings timings
            driver.toolchain.close session
            return last output) fun _ => True := by
    dsimp only
    split
    · exact (letsPerform.intoOutput capture).bind fun output _ =>
        letsPerform.closed session timings (last output)
    · exact letsPerform.closed session timings (last {})
  cases ended with
  | succeeded => exact collected fun output => (.returned (.ran output), timings)
  | failed error =>
      exact collected fun output =>
        (.returned ((BuildResult.failure error.message).withOutput output), timings)
  | panicked panic =>
      have cleanup := (letsPerform.stop capture).bind fun _ _ => letsPerform.close session
      exact (letsPerform.unwind panic cleanup).bind fun _ _ => .value trivial

/-! ## Requests -/

theorem runPrepared (settings : Settings) (arguments : List String) (session : σ)
    (timings : Timings) :
    discipline.Governs (driver.runPrepared settings arguments session timings) fun _ => True := by
  rw [runPrepared_eq]
  refine (letsPerform.startCapture driver).bind fun started _ => ?_
  refine (letsPerform.timed (letsPerform.calling session _) _ _).bind fun reached _ => ?_
  exact letsPerform.concluding started.1 started.2 reached

theorem beginning {ρ : Type} (settings : Settings) (stopped : Ending BuildResult → ρ)
    {next : Suppressor → σ → Action ρ}
    (rest : ∀ suppressor session, discipline.Governs (next suppressor session) fun _ => True) :
    discipline.Governs (driver.beginning settings stopped next) fun _ => True := by
  refine (letsPerform.engage .stderr settings.quiet).bind fun suppressor _ => ?_
  refine (letsPerform.created settings).bind fun outcome _ => ?_
  cases outcome with
  | error panic =>
      have cleanup := letsPerform.restoreSuppressor suppressor
      exact (letsPerform.unwind panic cleanup).bind fun _ _ => .value trivial
  | ok session => exact rest suppressor session

theorem preparing (settings : Settings) :
    discipline.Governs (driver.preparing settings) fun _ => True := by
  refine letsPerform.beginning settings _ fun suppressor session => ?_
  refine (letsPerform.prepare settings session).bind fun prepared _ => ?_
  obtain ⟨_ | error | panic, session, timings⟩ := prepared
  · exact (letsPerform.restoreSuppressor suppressor).bind fun _ _ => .value trivial
  · exact (letsPerform.restoreSuppressor suppressor).bind fun _ _ =>
      letsPerform.closed session timings _
  · exact (letsPerform.unwound suppressor session panic).bind fun _ _ => .value trivial

theorem run (settings : Settings) (arguments : List String) :
    discipline.Governs (driver.run settings arguments) fun _ => True := by
  rw [run_eq]
  refine (letsPerform.preparing settings).bind fun prepared _ => ?_
  obtain reached | ⟨session, timings⟩ := prepared
  · exact .value trivial
  · exact (letsPerform.runPrepared settings arguments session timings).bind fun _ _ =>
      .value trivial

theorem build (settings : Settings) (output : Path) :
    discipline.Governs (driver.build settings output) fun _ => True := by
  refine letsPerform.beginning settings _ fun suppressor session => ?_
  refine (letsPerform.link settings output session).bind fun linked _ => ?_
  obtain ⟨_ | error | panic, session, timings⟩ := linked
  · exact (letsPerform.restoreSuppressor suppressor).bind fun _ _ =>
      letsPerform.closed session timings _
  · exact (letsPerform.restoreSuppressor suppressor).bind fun _ _ =>
      letsPerform.closed session timings _
  · exact (letsPerform.unwound suppressor session panic).bind fun _ _ => .value trivial

/-- Requests are within every discipline that lets the driver perform them. -/
theorem serve (request : Request) :
    discipline.Governs (driver.serve request) fun _ => True := by
  cases request with
  | run settings arguments => exact letsPerform.run settings arguments
  | build settings output => exact letsPerform.build settings output

end Discipline.LetsPerform

/-! ## Growing older -/

/-- Pipes and threads are only added, and the moves that are to come have been to come
before. -/
def aging : Discipline where
  needs _ := True
  allows before after := Host.Grows before after ∧ after.schedule <:+ before.schedule
  refl host := ⟨.refl host, List.suffix_refl _⟩
  trans start rest := ⟨start.1.trans rest.1, rest.2.trans start.2⟩
  keeps _ _ := trivial

theorem aging_letsServe : aging.LetsServe where
  anywhere _ := trivial
  steps steps := ⟨Host.Steps.grows steps, Host.Steps.schedule_suffix steps⟩
  crash _ := ⟨.refl _, List.suffix_refl _⟩

namespace Host

variable {foreign : Nat → Prop} {before after : Host} {pieces : Stream → List Piece}

theorem Deeds.grows (deeds : Deeds foreign before pieces after) : Grows before after := by
  induction deeds with
  | none => exact .refl _
  | next _ deed ih =>
      rcases deed.cases_speaking with utterances | aside
      · exact ih.trans (Steps.grows utterances.steps)
      · exact ih.trans aside.grows

end Host

/-- Hosts grow older while an accountable toolchain serves requests. -/
theorem Toolchain.Accountable.aging {toolchain : Toolchain σ}
    (accountable : toolchain.Accountable owns) : aging.LetsPerform toolchain where
  toLetsServe := aging_letsServe
  note _ _ := ⟨.refl _, List.suffix_refl _⟩
  create settings host _ := by
    obtain ⟨pieces, deeds⟩ := accountable.create settings host
    exact ⟨⟨deeds.grows, deeds.schedule_suffix⟩, trivial⟩
  call session call host _ := by
    obtain ⟨pieces, deeds⟩ := accountable.call session call host
    exact ⟨⟨deeds.grows, deeds.schedule_suffix⟩, trivial⟩
  close session host _ := by
    obtain ⟨pieces, deeds⟩ := accountable.close session host
    exact ⟨⟨deeds.grows, deeds.schedule_suffix⟩, trivial⟩

end CompileDriver
