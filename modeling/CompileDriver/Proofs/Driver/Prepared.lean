import CompileDriver.Proofs.Driver.Accountable
import CompileDriver.Proofs.Driver.Restore
import CompileDriver.Proofs.Driver.Stretches

/-!
# Prepared programs

When a request has prepared its program, the process is fit to start a capture: the
diagnostics are shown again, its pipes and readers are in order, and the session holds
what it has come to hold.
-/

namespace CompileDriver

open Function (update)

variable {σ : Type} {leaks : Nat → Prop} {owns : σ → Nat → Prop}

namespace Host

/-- The host is well-formed and no read fails for good. -/
structure Fit (host : Host) : Prop where
  wellFormed : host.WellFormed
  reads : host.NoReadFailures

namespace Fit

variable {before after : Host} {foreign : Nat → Prop} {pieces : Stream → List Piece}

theorem deeds (fit : before.Fit) (deeds : Deeds foreign before pieces after) : after.Fit :=
  ⟨deeds.wellFormed fit.wellFormed, fit.reads.later deeds.schedule_suffix⟩

theorem idles (fit : before.Fit) (idles : Idles before after) : after.Fit :=
  ⟨idles.wellFormed fit.wellFormed, fit.reads.later (idles.schedule ▸ List.suffix_refl _)⟩

/-- Engaging a suppressor leaves the host fit. -/
theorem engage (stream : Stream) (wanted : Bool) (fit : before.Fit) :
    (Suppressor.engage stream wanted before).2.Fit := by
  have spares : Spares (fun _ => False) (Suppressor.engage stream wanted) _ :=
    .engage (fun _ => not_false) stream wanted
  obtain ⟨steps, -⟩ := spares before fun _ isForeign => isForeign.elim
  refine ⟨?_, fit.reads.later (Steps.schedule_suffix steps)⟩
  have grows := Steps.grows steps
  rcases Ensures.engage stream wanted before ⟨rfl, List.Subset.refl _⟩ with
    ⟨-, shows⟩ | ⟨copy, file, opening, -, found, -, shows⟩
  · exact fit.wellFormed.of_shows shows grows
  · apply fit.wellFormed.of_known _ shows.threads _ grows
    · intro number other refers
      rw [shows.files, Function.update_apply, Function.update_apply] at refers
      split_ifs at refers
      · exact .inr ⟨opening, (Option.some.inj refers).symm⟩
      · exact .inl ⟨stream.number, found.trans refers⟩
      · exact .inl ⟨number, refers⟩
    · intro identity member
      obtain ⟨reader, present, rfl⟩ := List.mem_map.mp (shows.threads member)
      rw [shows.files, Function.update_apply, Function.update_apply]
      split_ifs
      · exact Option.some_ne_none _
      · exact Option.some_ne_none _
      · exact fit.wellFormed.sources reader present

end Fit

end Host

namespace Ensures

variable {toolchain : Toolchain σ}

/-- A call leaves the host fit. -/
theorem callingFit (accountable : toolchain.Accountable owns) (session : σ) (call : SessionCall) :
    Ensures Host.Fit (Driver.calling call (toolchain.perform session call)) fun _ => Host.Fit := by
  intro host fit
  have noted : Host.Idles host (host.note (.sessionCall call)) :=
    .note host fun _ _ => Event.noConfusion
  obtain ⟨pieces, deeds⟩ := accountable.call session call (host.note (.sessionCall call))
  have called := (fit.idles noted).deeds deeds
  simp only [Driver.calling, Action.bind_apply, Action.modify_apply, Action.pure_apply]
  cases (toolchain.perform session call (host.note (.sessionCall call))).1.1 with
  | succeeded => exact called.idles (.note _ fun _ _ => Event.noConfusion)
  | failed error => exact called.idles (.note _ fun _ _ => Event.noConfusion)
  | panicked panic => exact called

theorem createFit (accountable : toolchain.Accountable owns) (settings : Settings) :
    Ensures Host.Fit (Driver.create toolchain settings) fun _ => Host.Fit := by
  intro host fit
  have noted : Host.Idles host (host.note (.sessionCall (.create settings.optimisation))) :=
    .note host fun _ _ => Event.noConfusion
  obtain ⟨pieces, deeds⟩ := accountable.create settings
    (host.note (.sessionCall (.create settings.optimisation)))
  have created := (fit.idles noted).deeds deeds
  simp only [Driver.create, Action.bind_apply, Action.modify_apply]
  cases (toolchain.createSession settings
    (host.note (.sessionCall (.create settings.optimisation)))).1 with
  | error panic => exact created
  | ok session => exact created.idles (.note _ fun _ _ => Event.noConfusion)

theorem elapsedFit : Ensures Host.Fit SystemCall.elapsed fun _ => Host.Fit := by
  intro host fit
  obtain ⟨time, measurements, same⟩ := Driver.elapsed_apply host
  rw [same]
  exact fit.idles ⟨.of_same rfl rfl, rfl, rfl, rfl, rfl, rfl⟩

end Ensures

namespace Driver

variable {driver : Driver σ} {settings : Settings} {before : Host}

/-- While a request prepares its program the suppressor is as it was engaged, and the host
is fit. -/
def Preparing (settings : Settings) (leaks : Nat → Prop) (before : Host) (mine : Nat → Prop)
    (host : Host) : Prop :=
  Hidden leaks (fun _ => False) before.opened before.threads
    (Suppressor.engage .stderr settings.quiet before).1 mine host ∧ host.Fit

theorem preparing_course (tidy : driver.toolchain.Tidy owns leaks)
    (accountable : driver.toolchain.Accountable owns) :
    Course driver.toolchain SessionCall.Prepares fun session =>
      Preparing settings leaks before (owns session) where
  calling session call _ host := fun ⟨hidden, fit⟩ =>
    ⟨(Hidden.frame _).calling tidy session call host hidden,
      Ensures.callingFit accountable session call host fit⟩
  elapsed _ host := fun ⟨hidden, fit⟩ =>
    ⟨(Hidden.frame _).stays .elapsed host hidden, Ensures.elapsedFit host fit⟩

/-- Showing the diagnostics again leaves the host fit. -/
theorem restore_preparing (start : before.WellFormed) {mine : Nat → Prop}
    (notMine : ¬ mine Stream.stderr.number) :
    Ensures (Preparing settings leaks before mine)
      (Suppressor.engage .stderr settings.quiet before).1.restore fun _ host =>
        Holding leaks (fun _ => False) before.opened before.threads mine host ∧ host.Fit := by
  rintro host ⟨hidden, fit⟩
  have holding := Ensures.restoreHidden notMine host hidden
  refine ⟨holding, ?_⟩
  have spares : Spares (fun _ => False)
      (Suppressor.engage .stderr settings.quiet before).1.restore _ :=
    .restoreSuppressor (fun _ => not_false) (Suppressor.own_none _)
  obtain ⟨steps, -⟩ := spares host fun _ isForeign => isForeign.elim
  refine ⟨?_, fit.reads.later (Host.Steps.schedule_suffix steps)⟩
  have grows := Host.Steps.grows steps
  -- the readers were there before the request, and so were the numbers that they read from
  have sources : ∀ identity ∈
      ((Suppressor.engage .stderr settings.quiet before).1.restore host).2.threads,
      ((Suppressor.engage .stderr settings.quiet before).1.restore host).2.opened identity.2 ≠
        none := by
    intro identity member
    obtain ⟨reader, present, rfl⟩ := List.mem_map.mp (holding.threads member)
    have wasOpen := start.sources reader present
    exact (holding.keeps.kept _ not_false wasOpen).symm ▸ wasOpen
  rcases hidden with ⟨inert, -⟩ | ⟨copy, file, opening, engaged, found, isFree, hidden⟩
  · rw [inert] at grows ⊢
    exact fit.wellFormed.of_shows
      (Ensures.restoreSuppressor_inert .stderr host ⟨rfl, List.Subset.refl _⟩) grows
  · obtain ⟨saved, -⟩ := Keeps.under_suppressor found isFree (fun _ isHeld => isHeld.elim)
      ⟨not_false, notMine⟩ hidden.keeps
    rw [engaged] at grows sources ⊢
    have shows := Ensures.restoreSuppressor .stderr saved host ⟨rfl, List.Subset.refl _⟩
    apply fit.wellFormed.of_known _ shows.threads sources grows
    intro number other refers
    rw [shows.files, Function.update_apply, Function.update_apply] at refers
    split_ifs at refers
    · exact .inl ⟨copy, saved.trans refers⟩
    · exact .inl ⟨number, refers⟩

/-- A host on which a program is prepared is fit, and apart from what the session holds
everything is in place. -/
theorem prepared_fit (settings : Settings) (tidy : driver.toolchain.Tidy owns leaks)
    (accountable : driver.toolchain.Accountable owns) (fit : before.Fit) (session : σ)
    (timings : Timings)
    (succeeded : (driver.preparing settings before).1 = .ok (session, timings)) :
    Holding leaks (fun _ => False) before.opened before.threads (owns session)
        (driver.preparing settings before).2 ∧ (driver.preparing settings before).2.Fit := by
  have engaged : Preparing settings leaks before (fun _ => False)
      (Suppressor.engage .stderr settings.quiet before).2 :=
    ⟨Ensures.engageHidden leaks settings.quiet before ⟨rfl, List.Subset.refl _⟩,
      fit.engage .stderr settings.quiet⟩
  have hidden := (Hidden.frame _).create tidy settings _ engaged.1
  have createdFit := Ensures.createFit accountable settings _ engaged.2
  rw [preparing, Action.bind_apply, Action.bind_apply] at succeeded ⊢
  rcases outcome : create driver.toolchain settings
    (Suppressor.engage .stderr settings.quiet before).2 with ⟨panic | created, host⟩
  · rw [outcome] at succeeded
    cases succeeded
  · rw [outcome] at succeeded hidden createdFit
    have prepared := (preparing_course tidy accountable).prepare settings
      (fun _ => prepares_of_preparation) created host
      ⟨hidden, createdFit⟩
    dsimp only at succeeded ⊢
    rw [Action.bind_apply] at succeeded ⊢
    rcases reached : prepare driver.toolchain settings created host with
      ⟨⟨_ | error | panic, now, recorded⟩, later⟩
    all_goals rw [reached] at succeeded prepared
    · cases succeeded
      exact restore_preparing fit.wellFormed ((tidy.streams .stderr).2 _) later prepared
    · cases succeeded
    · cases succeeded

end Driver

end CompileDriver
