import CompileDriver.Proofs.Driver.Conserve
import CompileDriver.Proofs.Driver.Invariant
import CompileDriver.Proofs.Guard.Alike

/-!
# Requests side by side

Two toolchains behave alike if the calls on their sessions end alike and have the same
effect on hosts that a request cannot tell apart.  Then the same request of two drivers does
the same on such hosts: it makes the same calls, which find the same and have the same
answers, it ends in the same way up to the texts that are captured, it has the same phases,
and it leaves hosts that look alike again.
-/

namespace CompileDriver

variable {σ τ : Type}

/-- Both streams take what is written to them. -/
def Host.Takes (host : Host) : Prop :=
  ∀ stream : Stream, host.opened.Takes stream.number

/-! ## What a request has in common with another one -/

/-- A call on a session or its answer, and what could be seen of every number then. -/
def Moment.sighting? (moment : Moment) : Option (Event × (Nat → Option Sight)) :=
  if moment.event.isRoutine then none else some (moment.event, moment.table.sights)

namespace Host

/-- The calls on sessions and their answers since an earlier state, each with what it
found. -/
def sightingsSince (host earlier : Host) : List (Event × (Nat → Option Sight)) :=
  (host.historySince earlier).filterMap Moment.sighting?

/-- What becomes of the surroundings of the process between the calls of a request. -/
structure Endures (before after : Host) : Prop where
  appends : Appends before after
  environment : after.environment = before.environment

namespace Endures

variable {foreign : Nat → Prop} {first second third before after : Host}

theorem refl (host : Host) : Endures host host :=
  ⟨.refl host, rfl⟩

theorem trans (start : Endures first second) (rest : Endures second third) :
    Endures first third :=
  ⟨start.appends.trans rest.appends, rest.environment.trans start.environment⟩

theorem of_step (step : Step foreign before after) : Endures before after := by
  refine ⟨step.appends, ?_⟩
  cases step with
  | utter utterance =>
      cases utterance with
      | turn => rw [(readersRan_takeTurn before).rest]
      | @deliver number file own found bytes =>
          rcases before.deliver_cases file bytes with ⟨pipe, -, fed⟩ | ⟨received, files, ran⟩
          · rw [fed, (fed_feed pipe before bytes).rest]
          · rw [ran.rest]
      | note | lineBuffer | buffers => rfl
  | startReader started =>
      unfold Host.startReader at started
      split at started <;> cases started
      rfl
  | join thread =>
      have ran := readersRan_await before fun host => !host.isReading thread
      exact (congrArg Host.environment ran.rest :)
  | refusals | occupy | pointTo | close | addPipe | opened | askToStop | measured => rfl

theorem of_steps (steps : Steps foreign before after) : Endures before after := by
  induction steps with
  | refl => exact .refl _
  | tail _ step ih => exact ih.trans (.of_step step)

end Endures

/-- What hosts have in common besides survives what requests do between the calls. -/
def Enduring (world : Host → Host → Prop) : Prop :=
  ∀ {one two after afterTwin : Host}, Endures one after → Endures two afterTwin →
    world one two → world after afterTwin

/-- The hosts look alike, and have something else in common. -/
structure Akin (world : Host → Host → Prop) (one two : Host) : Prop where
  alike : Alike one two
  world : world one two

/-- The hosts are akin, and since the two hosts `start` and `startTwin` the sessions were
called alike and have answered alike. -/
structure Paired (world : Host → Host → Prop) (start startTwin one two : Host) : Prop where
  akin : Akin world one two
  grown : start.journal <:+ one.journal
  grownTwin : startTwin.journal <:+ two.journal
  sightings : one.sightingsSince start = two.sightingsSince startTwin

section

variable {first second third : Host}

theorem sightingsSince_self (host : Host) : host.sightingsSince host = [] := by
  simp [sightingsSince, historySince_self]

theorem sightingsSince_trans (start : first.journal <:+ second.journal)
    (rest : second.journal <:+ third.journal) :
    third.sightingsSince first = second.sightingsSince first ++ third.sightingsSince second := by
  simp only [sightingsSince, historySince_trans start rest, List.filterMap_append]

theorem sightingsSince_note {base host : Host} (grown : base.journal <:+ host.journal)
    (event : Event) :
    (host.note event).sightingsSince base =
      host.sightingsSince base ++ (Moment.sighting? { event, table := host.table }).toList := by
  have noted : (host.note event).journal = [{ event, table := host.table }] ++ host.journal := rfl
  rw [sightingsSince_trans grown (List.suffix_cons _ _)]
  simp only [sightingsSince, historySince_of_journal noted]
  cases sighted : Moment.sighting? { event, table := host.table } <;> simp [sighted]

theorem Quiet.grown (quiet : Quiet first second) : first.journal <:+ second.journal := by
  obtain ⟨moments, grown, -⟩ := quiet
  exact ⟨moments, grown.symm⟩

/-- Nothing is sighted in a quiet stretch. -/
theorem Quiet.sightingsSince (quiet : Quiet first second) : second.sightingsSince first = [] := by
  obtain ⟨moments, grown, routine⟩ := quiet
  rw [Host.sightingsSince, historySince_of_journal grown, List.filterMap_eq_nil_iff]
  intro moment member
  simp [Moment.sighting?, routine moment (List.mem_reverse.mp member)]

end

namespace Paired

variable {world : Host → Host → Prop} {start startTwin one two after afterTwin : Host}

theorem initially (akin : Akin world one two) : Paired world one two one two where
  akin := akin
  grown := List.suffix_refl _
  grownTwin := List.suffix_refl _
  sightings := by rw [sightingsSince_self, sightingsSince_self]

/-- Hosts stay paired in stretches without calls. -/
theorem quietly (paired : Paired world start startTwin one two) (akin : Akin world after afterTwin)
    (quiet : Quiet one after) (quietTwin : Quiet two afterTwin) :
    Paired world start startTwin after afterTwin where
  akin := akin
  grown := paired.grown.trans quiet.grown
  grownTwin := paired.grownTwin.trans quietTwin.grown
  sightings := by
    rw [sightingsSince_trans paired.grown quiet.grown, quiet.sightingsSince,
      sightingsSince_trans paired.grownTwin quietTwin.grown, quietTwin.sightingsSince,
      paired.sightings]

/-- Hosts stay paired when both take note of the same. -/
theorem note (enduring : Enduring world) (paired : Paired world start startTwin one two)
    (event : Event) : Paired world start startTwin (one.note event) (two.note event) where
  akin :=
    { alike := paired.akin.alike
      world :=
        have noted (host : Host) : Endures host (host.note event) :=
          ⟨.of_same rfl rfl rfl rfl, rfl⟩
        enduring (noted one) (noted two) paired.akin.world }
  grown := paired.grown.trans (List.suffix_cons _ _)
  grownTwin := paired.grownTwin.trans (List.suffix_cons _ _)
  sightings := by
    rw [sightingsSince_note paired.grown, sightingsSince_note paired.grownTwin, paired.sightings]
    simp [Moment.sighting?, paired.akin.alike.sights]

end Paired

end Host

/-- To leave the surroundings of the process as they are, but for files that are open. -/
def endurance : Discipline where
  needs _ := True
  allows := Host.Endures
  refl := .refl
  trans := .trans
  keeps _ _ := trivial

theorem endurance_letsServe : endurance.LetsServe where
  anywhere _ := trivial
  steps := .of_steps
  crash _ := ⟨.of_same rfl rfl rfl rfl, rfl⟩

/-- Every call on a session of one toolchain ends like the same call on a session of the
other one, and has the same effect.  While a program runs on streams that take what is
written to them, the same is written, and no more is held back by one process than by the
other. -/
structure Toolchain.BehavesLike (toolchain : Toolchain σ) (twin : Toolchain τ)
    (world : Host → Host → Prop) (same : σ → τ → Prop) : Prop where
  create : ∀ settings, Abreast (Host.Akin world) (toolchain.createSession settings)
    (twin.createSession settings) (SameOutcome same)
  call : ∀ session other call, same session other →
    Abreast (Host.Akin world) (toolchain.perform session call) (twin.perform other call)
      fun reached reachedTwin => reached.1 = reachedTwin.1 ∧ same reached.2 reachedTwin.2
  close : ∀ session other, same session other →
    Abreast (Host.Akin world) (toolchain.close session) (twin.close other) fun _ _ => True
  output : ∀ session other arguments libs, same session other → ∀ one two : Host,
    one.Akin world two → one.Takes → two.Takes → one.lineBuffer = two.lineBuffer →
      (toolchain.run session arguments libs one).2.lineBuffer =
          (twin.run other arguments libs two).2.lineBuffer ∧
        ∀ stream : Stream,
          (toolchain.run session arguments libs one).2.deliveredSince one stream.number =
            (twin.run other arguments libs two).2.deliveredSince two stream.number

/-! ## Between the calls -/

namespace Abreast

open Host

variable {α β : Type} {world : Host → Host → Prop} {start startTwin : Host} {one : Action α}
  {two : Action β} {yields : α → β → Prop}

/-- Actions that keep hosts akin and make no calls keep them paired. -/
theorem quietly (abreast : Abreast (Akin world) one two yields) (silent : Silent one fun _ => True)
    (silentTwin : Silent two fun _ => True) :
    Abreast (Paired world start startTwin) one two yields := by
  intro first second paired
  obtain ⟨akin, known⟩ := abreast first second paired.akin
  exact ⟨paired.quietly akin (silent first trivial).1 (silentTwin second trivial).1, known⟩

/-- Actions that keep hosts alike keep them akin if the surroundings endure them. -/
theorem akin (enduring : Enduring world) (abreast : Abreast Alike one two yields)
    (endures : endurance.Governs one fun _ => True)
    (enduresTwin : endurance.Governs two fun _ => True) :
    Abreast (Akin world) one two yields := by
  intro first second akin
  obtain ⟨alike, known⟩ := abreast first second akin.alike
  have endured := (endures first trivial).1
  have enduredTwin := (enduresTwin second trivial).1
  exact ⟨⟨alike, enduring endured enduredTwin akin.world⟩, known⟩

/-- Requests serve their sessions side by side. -/
theorem serve (enduring : Enduring world) (abreast : Abreast Alike one two yields)
    (serves : ∀ {discipline : Discipline}, discipline.LetsServe →
      discipline.Governs one fun _ => True)
    (servesTwin : ∀ {discipline : Discipline}, discipline.LetsServe →
      discipline.Governs two fun _ => True) :
    Abreast (Paired world start startTwin) one two yields :=
  quietly (akin enduring abreast (serves endurance_letsServe) (servesTwin endurance_letsServe))
    (serves silence_letsServe) (servesTwin silence_letsServe)

theorem note (enduring : Enduring world) (event : Event) :
    Abreast (Paired world start startTwin) (modify (·.note event) : Action PUnit)
      (modify (·.note event)) fun _ _ => True :=
  fun _ _ paired => ⟨paired.note enduring event, trivial⟩

end Abreast

end CompileDriver
