import CompileDriver.Host.Start
import CompileDriver.Proofs.Guard.Layer
import CompileDriver.Proofs.Host.Spawn

/-!
# Nested guards

Guards compose when they are ended in the reverse order of their acquisition.  The
invariant of a well-nested run is a stack of layers: taking off the layers of the
active guards one after the other, the newest first, leads to the open files at the
start, and taking off the layer of a guard leads to what there was before it was
acquired.

A scope can be redirected while newer guards are active.  The redirected stream
then shows through those of their layers that have not saved it.  This is the only
way in which what lies under a layer can change, and it is why the record of a
guard names the streams that were moved.
-/

namespace CompileDriver

open Function (update)

/-! ## Redirecting scopes -/

namespace Ensures

variable {files : OpenFiles} {threads : List (Nat × Nat)}

/-- Redirecting an open stream points it at some file, or changes nothing. -/
def Redirected (files : OpenFiles) (stream : Stream) (host : Host) : Prop :=
  host.opened = files ∨ ∃ file, host.opened = update files stream.number (some file)

theorem redirectToOpened {scope : Scope} {opening : Action (Except OsError Nat)}
    (isOpen : files scope.stream.number ≠ none)
    (opens : Ensures (Host.Shows files threads) opening
      (Attempt files threads fun number host => files number = none ∧
        ∃ file, host.Shows (update files number (some file)) threads)) :
    Ensures (Host.Shows files threads) (scope.redirectToOpened opening) fun _ =>
      Redirected files scope.stream := by
  refine opens.bind fun outcome => ?_
  cases outcome with
  | error error => exact value fun host shows => .inl shows.files
  | ok number =>
      rintro host ⟨isFree, file, shows⟩
      have different : scope.stream.number ≠ number := by
        intro same
        rw [← same] at isFree
        exact isOpen isFree
      have redirected := redirect number scope.stream.number host shows
      change Redirected files scope.stream (SystemCall.close number
        (SystemCall.redirect number scope.stream.number host).2).2
      cases outcome : (SystemCall.redirect number scope.stream.number host).1 with
      | error error =>
          rw [outcome] at redirected
          have closed := close number _ redirected
          rw [closed_again isFree] at closed
          exact .inl closed.files
      | ok done =>
          rw [outcome] at redirected
          obtain ⟨target, -, shows⟩ := redirected
          have closed := close number _ shows
          rw [Function.update_comm different, closed_again isFree] at closed
          exact .inr ⟨target, closed.files⟩

theorem redirectAt (scope : Scope) (target : Target)
    (isOpen : files scope.stream.number ≠ none) :
    Ensures (Host.Shows files threads) (scope.redirectAt target) fun _ =>
      Redirected files scope.stream := by
  cases target with
  | number number =>
      refine ((redirect number scope.stream.number).weaken ?_).discarded
      rintro (error | done) host redirected
      · exact .inl redirected.files
      · obtain ⟨file, -, shows⟩ := redirected
        exact .inr ⟨file, shows.files⟩
  | discardDevice =>
      apply redirectToOpened isOpen
      refine openDiscard.weaken ?_
      rintro (error | number) host opened
      · exact opened
      · obtain ⟨isFree, opening, shows⟩ := opened
        exact ⟨isFree, _, shows⟩
  | file path => exact redirectToOpened isOpen (openAppending path)

end Ensures

/-! ## The guards by number -/

namespace Guards

/-- Only the guard of one number differs. -/
structure Replaces (number : Nat) (guard : Option Guard) (before after : Guards) : Prop where
  new : after.guard? number = guard
  others : ∀ other, other ≠ number → after.guard? other = before.guard? other

variable {guards : Guards} {number : Nat}

theorem guard?_length (guards : Guards) : guards.guard? guards.length = none := by
  simp [guard?]

theorem replaces_self (guards : Guards) (number : Nat) :
    Replaces number (guards.guard? number) guards guards :=
  ⟨rfl, fun _ _ => rfl⟩

theorem replaces_append (guards : Guards) (guard : Option Guard) :
    Replaces guards.length guard guards (guards ++ [guard]) := by
  constructor
  · simp [guard?]
  · intro other different
    simp only [guard?, List.getElem?_append]
    split
    · rfl
    · rw [List.getElem?_eq_none (l := guards) (by omega), List.getElem?_eq_none]
      simp only [List.length_singleton]
      omega

theorem replaces_set {old : Guard} (known : guards.guard? number = some old)
    (guard : Option Guard) : Replaces number guard guards (guards.set number guard) := by
  have inside : number < guards.length := by
    by_contra outside
    rw [guard?, List.getElem?_eq_none (by omega)] at known
    cases known
  constructor
  · simp [guard?, inside]
  · intro other different
    simp [guard?, List.getElem?_set_ne different.symm]

theorem set_known {guard : Guard} (known : guards.guard? number = some guard) :
    guards.set number (some guard) = guards := by
  apply List.ext_getElem?
  intro other
  rw [List.getElem?_set]
  split
  · rename_i same
    subst same
    simp only [guard?, Option.join_eq_some_iff] at known
    rw [known]
    split
    · rfl
    · rename_i outside
      rw [List.getElem?_eq_none (by omega)] at known
      cases known
  · rfl

theorem isActive_of_allEnded {guard : Guard} (allEnded : guards.allEnded = true)
    (known : guards.guard? number = some guard) : guard.isActive = false := by
  simp only [guard?, Option.join_eq_some_iff] at known
  have member := List.mem_of_getElem? known
  simp only [Guards.allEnded, List.all_eq_true] at allEnded
  simpa using allEnded _ member

/-- A guard that was replaced by an idle one is not active. -/
theorem Replaces.isIdle {guard : Option Guard} {next : Guards}
    (replaces : Replaces number guard guards next) (idle : ∀ left ∈ guard, left.Idle) :
    next.isActive number = false := by
  rw [isActive, replaces.new]
  cases guard with
  | none => rfl
  | some left => simp [(idle left rfl).isActive]

end Guards

/-! ## Stacks of layers -/

/-- A number that is none of the streams that were moved. -/
def Held.Unmoved (held : Held) (number : Nat) : Prop :=
  ∀ stream ∈ held.moved, number ≠ stream.number

theorem Held.map_move (stream : Stream) (list : List Held) :
    (Held.move stream list).map Held.guard = list.map Held.guard := by
  induction list with
  | nil => rfl
  | cons held older ih =>
      rw [Held.move]
      split
      · rfl
      · simp [ih]

/-- What is recorded of a guard agrees with its layer on the open files: the layer leaves alone
the streams that were moved, and below it is what there was when the guard was acquired, apart
from these. -/
structure Held.Agrees (held : Held) (layer : Layer) (now : OpenFiles) : Prop where
  saved : ∀ stream, stream ∈ held.saved ↔ layer.saves stream.number ≠ none
  moved : ∀ stream ∈ held.moved, stream ∉ held.saved ∧ stream.number ∉ layer.own
  undone : ∀ number, held.Unmoved number → layer.undo now number = held.made number

/-- The layers of the active guards, from the open files of now down to those at the
start, and what is recorded of each. -/
inductive Stacked (initial : OpenFiles) (guards : Guards) : List Held → OpenFiles → Prop
  | nil : Stacked initial guards [] initial
  | cons {held : Held} {older : List Held} {now : OpenFiles} {guard : Guard} {layer : Layer}
      (found : guards.guard? held.guard = some guard) (holds : guard.Holds layer)
      (inPlace : layer.InPlace now) (agrees : held.Agrees layer now)
      (rest : Stacked initial guards older (layer.undo now)) :
      Stacked initial guards (held :: older) now

theorem Guard.Holds.of_scope {stream : Stream} {copy : Nat} {layer : Layer}
    (holds : (Guard.scope { stream, saved := some copy }).Holds layer) :
    layer.saves stream.number = some copy ∧ stream.number ∉ layer.own := by
  cases holds with
  | scope different => simp [Layer.ofScope, different.symm]

/-- An active guard has saved what its layer has saved. -/
theorem Guard.Holds.mem_saved {guard : Guard} {layer : Layer} (holds : guard.Holds layer)
    (stream : Stream) : stream ∈ guard.saved ↔ layer.saves stream.number ≠ none := by
  cases holds with
  | @suppressor other copy different | @scope other copy different =>
      rw [Layer.saves_ofScope]
      exact List.mem_singleton
  | @capture capture wiring readers active apart =>
      rw [Layer.saves_ofWiring_stream]
      cases stream <;> simp [saved, Capture.isActive, active]

namespace Stacked

variable {initial now : OpenFiles} {guards next : Guards} {list : List Held} {number : Nat}

/-- Only the active guards matter. -/
theorem congr (stacked : Stacked initial guards list now)
    (same : ∀ held ∈ list, next.guard? held.guard = guards.guard? held.guard) :
    Stacked initial next list now := by
  induction stacked with
  | nil => exact .nil
  | @cons held older now guard layer found holds inPlace agrees rest ih =>
      apply Stacked.cons _ holds inPlace agrees
      · exact ih fun other member => same other (List.mem_cons_of_mem held member)
      · rw [same held List.mem_cons_self, found]

/-- Every guard on the stack is active. -/
theorem isActive (stacked : Stacked initial guards list now)
    (member : number ∈ list.map Held.guard) : guards.isActive number = true := by
  induction stacked with
  | nil => cases member
  | cons found holds inPlace agrees rest ih =>
      rcases List.mem_cons.mp member with rfl | inRest
      · simp [Guards.isActive, found, holds.isActive]
      · exact ih inRest

section

variable {stream : Stream} {copy : Nat} (member : number ∈ list.map Held.guard)
  (isScope : guards.guard? number = some (.scope { stream, saved := some copy }))

include member isScope

/-- The stream of a scope on the stack is open. -/
theorem isOpen_of_scope (stacked : Stacked initial guards list now) :
    now stream.number ≠ none := by
  induction stacked with
  | nil => cases member
  | @cons held older now guard layer found holds inPlace agrees rest ih =>
      rcases List.mem_cons.mp member with same | inRest
      · rw [← same, isScope] at found
        cases found
        obtain ⟨saves, notOwn⟩ := holds.of_scope
        exact inPlace.streams _ _ saves notOwn
      · have isOpen := ih inRest
        have notOwn : stream.number ∉ layer.own := fun isOwn => isOpen (Layer.undo_own isOwn now)
        cases saves : layer.saves stream.number with
        | some saved => exact inPlace.streams _ _ saves notOwn
        | none => rwa [Layer.undo_other notOwn saves] at isOpen

/-- Pointing the stream of a scope on the stack elsewhere is seen down to the newest guard that
has saved the stream. -/
theorem move (stacked : Stacked initial guards list now) (file : OpenFile) :
    Stacked initial guards (Held.move stream list) (update now stream.number (some file)) := by
  induction stacked with
  | nil => cases member
  | @cons held older now guard layer found holds inPlace agrees rest ih =>
      have notOwn : stream.number ∉ layer.own := by
        rcases List.mem_cons.mp member with same | inRest
        · rw [← same, isScope] at found
          cases found
          exact holds.of_scope.2
        · exact fun isOwn => rest.isOpen_of_scope inRest isScope (Layer.undo_own isOwn now)
      rw [Held.move]
      split
      · rename_i isSaved
        obtain ⟨saved, saves⟩ := Option.ne_none_iff_exists'.mp ((agrees.saved stream).mp isSaved)
        have covered := inPlace.undo_update_saved notOwn saves file
        refine .cons found holds (inPlace.update _ file) ?_ (covered ▸ rest)
        exact ⟨agrees.saved, agrees.moved, covered ▸ agrees.undone⟩
      · rename_i notSaved
        have saves : layer.saves stream.number = none :=
          not_not.mp (mt (agrees.saved stream).mpr notSaved)
        have inRest : number ∈ older.map Held.guard := by
          refine (List.mem_cons.mp member).resolve_left fun same => ?_
          rw [← same, isScope] at found
          cases found
          rw [holds.of_scope.1] at saves
          cases saves
        have through := inPlace.undo_update_other notOwn saves file
        refine .cons found holds (inPlace.update _ file) ⟨agrees.saved, ?_, fun other unmoved => ?_⟩
          (through ▸ ih inRest)
        · exact List.forall_mem_cons.mpr ⟨⟨notSaved, notOwn⟩, agrees.moved⟩
        · rw [through, Function.update_of_ne (unmoved stream List.mem_cons_self)]
          exact agrees.undone other fun moved member =>
            unmoved moved (List.mem_cons_of_mem stream member)

end

end Stacked

/-! ## Runs -/

namespace Nest

/-- The invariant of well-nested runs: the active guards are on the stack, all others
have nothing to give back, and the guards that have ended have brought back what there was
when they were acquired, apart from the streams that were moved, which they have left alone. -/
structure Sound (initial now : OpenFiles) (nest : Nest) : Prop where
  stacked : Stacked initial nest.guards nest.held now
  idle : ∀ number guard, nest.guards.guard? number = some guard →
    number ∉ nest.held.map Held.guard → guard.Idle
  distinct : (nest.held.map Held.guard).Nodup
  ended : ∀ ended ∈ nest.ended,
    (∀ number, ended.Unmoved number → ended.left number = ended.made number) ∧
      ∀ stream ∈ ended.moved,
        stream ∉ ended.saved ∧ ended.left stream.number = ended.found stream.number

namespace Sound

variable {initial now before after : OpenFiles} {nest : Nest} {guards : Guards} {number : Nat}

theorem initially (now : OpenFiles) : Sound now now {} where
  stacked := .nil
  idle number guard found := by simp [Guards.guard?] at found
  distinct := List.nodup_nil
  ended := nofun

theorem isActive (sound : Sound initial now nest) (isHeld : number ∈ nest.held.map Held.guard) :
    nest.guards.isActive number = true :=
  sound.stacked.isActive isHeld

theorem isActive_of_not_held (sound : Sound initial now nest)
    (notHeld : number ∉ nest.held.map Held.guard) : nest.guards.isActive number = false := by
  cases found : nest.guards.guard? number with
  | none => simp [Guards.isActive, found]
  | some guard => simp [Guards.isActive, found, (sound.idle number guard found notHeld).isActive]

theorem not_held_of_none (sound : Sound initial now nest)
    (isNone : nest.guards.guard? number = none) : number ∉ nest.held.map Held.guard := by
  intro isHeld
  have active := sound.isActive isHeld
  simp [Guards.isActive, isNone] at active

/-- The guard of a number that is not active becomes another idle guard. -/
theorem replaced {guard : Option Guard} (sound : Sound initial now nest)
    (notHeld : number ∉ nest.held.map Held.guard)
    (replaces : Guards.Replaces number guard nest.guards guards)
    (idle : ∀ guard' ∈ guard, guard'.Idle) : Sound initial now { nest with guards } where
  stacked := by
    apply sound.stacked.congr
    intro held member
    apply replaces.others
    rintro rfl
    exact notHeld (List.mem_map_of_mem member)
  idle other found known otherNotHeld := by
    by_cases same : other = number
    · subst same
      rw [replaces.new] at known
      exact idle found known
    · rw [replaces.others other same] at known
      exact sound.idle other found known otherNotHeld
  distinct := sound.distinct
  ended := sound.ended

end Sound

/-! ### What is recorded -/

section

variable {nest : Nest} {guards : Guards} {number : Nat} (before after : OpenFiles)

theorem track_same (same : nest.guards.isActive number = guards.isActive number) :
    nest.track number guards before after = { nest with guards } := by
  unfold track
  rw [same]
  cases guards.isActive number <;> rfl

theorem track_acquired (wasIdle : nest.guards.isActive number = false)
    (isActive : guards.isActive number = true) :
    nest.track number guards before after =
      { nest with
        guards
        held := { guard := number, made := before, saved := guards.saved number, moved := [] } ::
          nest.held } := by
  simp [track, wasIdle, isActive]

theorem track_ended {last : Held} {older : List Held}
    (wasActive : nest.guards.isActive number = true)
    (isIdle : guards.isActive number = false) (held : nest.held = last :: older) :
    nest.track number guards before after =
      { guards
        held := older
        ended := { last with found := before, left := after } :: nest.ended } := by
  simp [track, wasActive, isIdle, held]

end

namespace Sound

variable {initial before : OpenFiles} {nest : Nest} {guards : Guards} {number : Nat}

/-- Ending a guard that is not active, or making one that does not become active. -/
theorem stayed_idle {now : OpenFiles} {guard : Option Guard} (sound : Sound initial now nest)
    (notHeld : number ∉ nest.held.map Held.guard)
    (replaces : Guards.Replaces number guard nest.guards guards)
    (idle : ∀ guard' ∈ guard, guard'.Idle) (before after : OpenFiles) :
    Sound initial now (nest.track number guards before after) := by
  have same := (sound.isActive_of_not_held notHeld).trans (replaces.isIdle idle).symm
  rw [track_same before after same]
  exact sound.replaced notHeld replaces idle

/-- Acquiring a guard puts it on the stack. -/
theorem acquired {guard : Guard} {host : Host} (sound : Sound initial before nest)
    (notHeld : number ∉ nest.held.map Held.guard)
    (replaces : Guards.Replaces number (some guard) nest.guards guards)
    (acquired : guard.Acquired before host) :
    Sound initial host.opened (nest.track number guards before host.opened) := by
  rcases acquired with ⟨idle, same⟩ | ⟨layer, holds, inPlace, undone⟩
  · rw [same]
    apply sound.stayed_idle notHeld replaces
    rintro other ⟨⟩
    exact idle
  · have isActive : guards.isActive number = true := by
      simp [Guards.isActive, replaces.new, holds.isActive]
    rw [track_acquired before host.opened (sound.isActive_of_not_held notHeld) isActive]
    have older : Stacked initial guards nest.held before := by
      apply sound.stacked.congr
      intro held member
      apply replaces.others
      rintro rfl
      exact notHeld (List.mem_map_of_mem member)
    constructor
    · refine .cons replaces.new holds inPlace ⟨fun stream => ?_, by simp, fun other _ => ?_⟩ ?_
      · have saved : guards.saved number = guard.saved := by simp [Guards.saved, replaces.new]
        rw [saved]
        exact holds.mem_saved stream
      · rw [undone]
      · rwa [undone]
    · intro other found known otherNotHeld
      have different : other ≠ number := by
        rintro rfl
        exact otherNotHeld List.mem_cons_self
      rw [replaces.others other different] at known
      exact sound.idle other found known fun member => otherNotHeld (List.mem_cons_of_mem _ member)
    · exact List.nodup_cons.mpr ⟨notHeld, sound.distinct⟩
    · exact sound.ended

/-- Ending the guard that was acquired last takes its layer off the stack. -/
theorem ended_newest {after : OpenFiles} {last : Held} {older : List Held} {left : Option Guard}
    (sound : Sound initial before nest) (newest : nest.held = last :: older)
    (replaces : Guards.Replaces last.guard left nest.guards guards)
    (idle : ∀ guard ∈ left, guard.Idle)
    (undoes : ∀ guard layer, nest.guards.guard? last.guard = some guard → guard.Holds layer →
      layer.InPlace before → after = layer.undo before) :
    Sound initial after (nest.track last.guard guards before after) := by
  rcases sound with ⟨stacked, others, distinct, recorded⟩
  rw [newest] at stacked others distinct
  have notInOlder := (List.nodup_cons.mp distinct).1
  have wasActive : nest.guards.isActive last.guard = true := stacked.isActive List.mem_cons_self
  rw [track_ended before after wasActive (replaces.isIdle idle) newest]
  cases stacked with
  | cons found holds inPlace agrees rest =>
      have undoes := undoes _ _ found holds inPlace
      constructor
      · rw [undoes]
        apply rest.congr
        intro held member
        apply replaces.others
        intro same
        exact notInOlder (same ▸ List.mem_map_of_mem member)
      · intro number guard found notHeld
        by_cases same : number = last.guard
        · rw [same, replaces.new] at found
          exact idle guard found
        · rw [replaces.others number same] at found
          apply others number guard found
          intro member
          rcases List.mem_cons.mp member with isLast | inOlder
          · exact same isLast
          · exact notHeld inOlder
      · exact (List.nodup_cons.mp distinct).2
      · intro ended member
        rcases List.mem_cons.mp member with rfl | earlier
        · constructor
          · exact fun number unmoved =>
            (congrFun undoes number).trans (agrees.undone number unmoved)
          · intro stream moved
            obtain ⟨notSaved, notOwn⟩ := agrees.moved stream moved
            have saves := not_not.mp (mt (agrees.saved stream).mpr notSaved)
            exact ⟨notSaved, (congrFun undoes _).trans (Layer.undo_other notOwn saves before)⟩
        · exact recorded ended earlier

/-- Ending a guard takes its layer off the stack, or does nothing. -/
theorem finished {host : Host} {guard : Guard} {how : Finish}
    (sound : Sound initial host.opened nest)
    (allowed : nest.allows (.finish number how) = true)
    (known : nest.guards.guard? number = some guard) :
    Sound initial (guard.finishBy how host).2.opened
      (nest.track number (nest.guards.set number (guard.finishBy how host).1) host.opened
        (guard.finishBy how host).2.opened) := by
  have replaces := Guards.replaces_set known (guard.finishBy how host).1
  have leftIdle (idle : (guard.finish host).1.Idle) :
      ∀ left ∈ (guard.finishBy how host).1, left.Idle := by
    intro left member
    rw [Guard.finishBy_left guard how host left member]
    exact idle
  rw [Guard.finishBy_host]
  by_cases isHeld : number ∈ nest.held.map Held.guard
  · have wasActive := sound.isActive isHeld
    have newest : nest.held.head?.map Held.guard = some number := by
      simpa [allows, wasActive] using allowed
    cases held : nest.held with
    | nil => simp [held] at newest
    | cons last older =>
        simp only [held, List.head?_cons, Option.map_some, Option.some.injEq] at newest
        subst newest
        have stacked := sound.stacked
        rw [held] at stacked
        cases stacked with
        | cons found holds inPlace agrees rest =>
            rw [known] at found
            cases found
            obtain ⟨idle, -⟩ := holds.finish inPlace host ⟨rfl, List.Subset.refl _⟩
            apply sound.ended_newest held replaces (leftIdle idle)
            intro guard' layer found holds inPlace
            rw [known] at found
            cases found
            exact (holds.finish inPlace host ⟨rfl, List.Subset.refl _⟩).2
  · have isIdle := sound.idle number guard known isHeld
    rw [(isIdle.finish host).1]
    exact sound.stayed_idle isHeld replaces (leftIdle (isIdle.finish host).2) _ _

/-- The same guards are on another stack. -/
theorem restacked {now later : OpenFiles} {list : List Held} (sound : Sound initial now nest)
    (stacked : Stacked initial nest.guards list later)
    (same : list.map Held.guard = nest.held.map Held.guard) :
    Sound initial later { nest with held := list } where
  stacked := stacked
  idle number guard found notHeld := sound.idle number guard found (same ▸ notHeld)
  distinct := same ▸ sound.distinct
  ended := sound.ended

end Sound

theorem step_apply (nest : Nest) (use : GuardUse) (host : Host) :
    nest.step use host =
      (nest.record use (use.perform nest.guards host).1 host.opened
        (use.perform nest.guards host).2.opened, (use.perform nest.guards host).2) :=
  rfl

section

variable {initial : OpenFiles} {nest : Nest} {host : Host}

theorem sound_suppress (sound : Sound initial host.opened nest) (stream : Stream) (wanted : Bool) :
    Sound initial (nest.step (.suppress stream wanted) host).2.opened
      (nest.step (.suppress stream wanted) host).1 := by
  have acquired := Ensures.engage_acquired stream wanted host ⟨rfl, List.Subset.refl _⟩
  have notHeld := sound.not_held_of_none (Guards.guard?_length nest.guards)
  exact sound.acquired notHeld (Guards.replaces_append _ _) acquired

theorem sound_saveScope (sound : Sound initial host.opened nest) (stream : Stream) :
    Sound initial (nest.step (.saveScope stream) host).2.opened
      (nest.step (.saveScope stream) host).1 := by
  have saved := Ensures.save_acquired stream host ⟨rfl, List.Subset.refl _⟩
  have notHeld := sound.not_held_of_none (Guards.guard?_length nest.guards)
  rw [step_apply]
  simp only [GuardUse.perform, Action.bind_apply]
  cases outcome : (Scope.save stream host).1 with
  | error error =>
      rw [outcome] at saved
      dsimp only [Action.pure_apply]
      rw [saved.files]
      have same := Guards.replaces_self nest.guards nest.guards.length
      rw [Guards.guard?_length] at same
      exact sound.stayed_idle notHeld same nofun _ _
  | ok scope =>
      rw [outcome] at saved
      exact sound.acquired notHeld (Guards.replaces_append _ _) saved

theorem sound_start (sound : Sound initial host.opened nest) (number : Nat) :
    Sound initial (nest.step (.start number) host).2.opened
      (nest.step (.start number) host).1 := by
  have nothing : Sound initial host.opened
      (nest.track number nest.guards host.opened host.opened) := by
    rw [track_same _ _ rfl]
    exact sound
  rw [step_apply]
  simp only [GuardUse.perform]
  rcases found : nest.guards.guard? number with _ | guard | guard | capture
  · exact nothing
  · exact nothing
  · exact nothing
  · by_cases isHeld : number ∈ nest.held.map Held.guard
    · -- a capture that is active stays as it is
      have isActive : capture.isActive = true := by
        have active := sound.isActive isHeld
        rw [Guards.isActive, found] at active
        exact active
      have refused : capture.start host = ((.error .alreadyActive, capture), host) := by
        simp [Capture.start, isActive]
      simp only [Action.bind_apply, refused, Action.pure_apply]
      rw [Guards.set_known found]
      exact nothing
    · have idle := sound.idle number _ found isHeld
      cases idle with
      | capture given =>
          have acquired := Ensures.start_acquired given host ⟨rfl, List.Subset.refl _⟩
          exact sound.acquired isHeld (Guards.replaces_set found _) acquired

theorem sound_redirect (sound : Sound initial host.opened nest) {number : Nat} {target : Target}
    (allowed : nest.allows (.redirect number target) = true) :
    Sound initial (nest.step (.redirect number target) host).2.opened
      (nest.step (.redirect number target) host).1 := by
  rw [step_apply]
  rcases found : nest.guards.guard? number with _ | guard | scope | guard
  all_goals simp only [GuardUse.perform, record, GuardUse.subject?, found]
  · exact sound
  · exact sound
  · have isHeld : number ∈ nest.held.map Held.guard := by
      by_contra notHeld
      simp [allows, sound.isActive_of_not_held notHeld] at allowed
    have active := sound.isActive isHeld
    rw [Guards.isActive, found] at active
    rcases scope with ⟨stream, _ | copy⟩
    · cases active
    · have isOpen := sound.stacked.isOpen_of_scope isHeld found
      have redirected := Ensures.redirectAt { stream, saved := some copy } target isOpen host
        ⟨rfl, List.Subset.refl _⟩
      change Sound initial (Scope.redirectAt { stream, saved := some copy } target host).2.opened
        (if (Scope.redirectAt { stream, saved := some copy } target host).2.opened stream.number =
            host.opened stream.number then nest
          else { nest with held := Held.move stream nest.held })
      by_cases kept : (Scope.redirectAt { stream, saved := some copy } target host).2.opened
          stream.number = host.opened stream.number
      · rw [if_pos kept]
        rcases redirected with unchanged | ⟨file, changed⟩
        · exact unchanged ▸ sound
        · rw [changed, Function.update_self] at kept
          rw [changed, kept, Function.update_eq_self]
          exact sound
      · rw [if_neg kept]
        rcases redirected with unchanged | ⟨file, changed⟩
        · exact absurd (congrFun unchanged stream.number) kept
        · rw [changed]
          exact sound.restacked (sound.stacked.move isHeld found file) (Held.map_move stream _)
  · exact sound

theorem sound_finish (sound : Sound initial host.opened nest) {number : Nat} {how : Finish}
    (allowed : nest.allows (.finish number how) = true) :
    Sound initial (nest.step (.finish number how) host).2.opened
      (nest.step (.finish number how) host).1 := by
  rw [step_apply]
  simp only [GuardUse.perform]
  cases found : nest.guards.guard? number with
  | none =>
      dsimp only [record, GuardUse.subject?, Action.pure_apply]
      rw [track_same _ _ rfl]
      exact sound
  | some guard => exact sound.finished allowed found

/-- Every step that keeps the order preserves the invariant. -/
theorem sound_step (sound : Sound initial host.opened nest) (use : GuardUse)
    (allowed : nest.allows use = true) :
    Sound initial (nest.step use host).2.opened (nest.step use host).1 := by
  cases use with
  | suppress stream wanted => exact sound_suppress sound stream wanted
  | saveScope stream => exact sound_saveScope sound stream
  | makeCapture nonblocking =>
      have notHeld := sound.not_held_of_none (Guards.guard?_length nest.guards)
      apply sound.replaced notHeld (Guards.replaces_append nest.guards _)
      rintro capture ⟨⟩
      exact .capture rfl
  | start number => exact sound_start sound number
  | redirect number target => exact sound_redirect sound allowed
  | finish number how => exact sound_finish sound allowed
  | write stream bytes =>
      have kept := ((Speaks.writeStream (fun _ => not_false) stream bytes).stays host trivial).1
      rw [step_apply]
      exact kept.1 ▸ sound
  | child launcher invocation =>
      have kept := (stillness_letsRun.inheriting launcher invocation host trivial).1
      rw [step_apply]
      exact kept.1 ▸ sound

/-- Every well-nested run preserves the invariant. -/
theorem sound_run (sound : Sound initial host.opened nest) (uses : List GuardUse)
    (nested : nest.isNested host uses = true) :
    Sound initial (nest.run uses host).2.opened (nest.run uses host).1 := by
  induction uses generalizing nest host with
  | nil => exact sound
  | cons use rest ih =>
      simp only [isNested, Bool.and_eq_true] at nested
      exact ih (sound_step sound use nested.1) nested.2

end

/-- When all guards have ended nothing is left on the stack. -/
theorem Sound.completed {initial now : OpenFiles} {nest : Nest} (sound : Sound initial now nest)
    (allEnded : nest.guards.allEnded = true) : now = initial := by
  rcases nest with ⟨guards, held, ended⟩
  cases sound.stacked with
  | nil => rfl
  | cons found holds inPlace agrees rest =>
      have inactive := Guards.isActive_of_allEnded allEnded found
      rw [holds.isActive] at inactive
      cases inactive

/-- Nested guards compose.  From every host, whatever the standard streams refer to
and whichever acquisitions fail, a well-nested run in which all guards have ended
leaves every number referring to the file it referred to at the start.  Each guard
that has ended on the way has brought back what there was when it was acquired, but for the
streams that older scopes have pointed elsewhere past it: these it had not saved, and it leaves
them where they point. -/
theorem nested_guards_compose (host : Host) (uses : List GuardUse)
    (nested : isNested {} host uses = true) :
    ((run {} uses host).1.guards.allEnded = true → (run {} uses host).2.opened = host.opened) ∧
      ∀ ended ∈ (run {} uses host).1.ended,
        (∀ number, (∀ stream ∈ ended.moved, number ≠ stream.number) →
          ended.left number = ended.made number) ∧
        ∀ stream ∈ ended.moved,
          stream ∉ ended.saved ∧ ended.left stream.number = ended.found stream.number := by
  have sound := sound_run (Sound.initially host.opened) uses nested
  constructor
  · exact sound.completed
  · exact sound.ended

/-- A scope of standard error that is redirected while a scope of standard output is active,
and both are ended in order. -/
def crossedUses : List GuardUse :=
  [.saveScope .stderr, .saveScope .stdout, .redirect 0 .discardDevice, .finish 1 .called,
    .finish 0 .called]

/-- Nested guards need not bring back everything.  The run is well-nested and ends where it
started, but the inner scope leaves standard error on the discard device, which it did not
refer to when that scope was made. -/
theorem inner_guards_keep_redirections :
    let host : Host := { table := .standard }
    isNested {} host crossedUses = true ∧
      (run {} crossedUses host).1.guards.allEnded = true ∧
      ∃ ended ∈ (run {} crossedUses host).1.ended, ended.guard = 1 ∧
        ended.made Stream.stderr.number = some (.initial .stderr) ∧
        ended.left Stream.stderr.number = some (.discard 0) := by
  decide +kernel

/-- A scope, a suppressor and a capture around each other, where standard output is
closed at first, so that it is a number like any other for the capture.  The scope
is redirected while the suppressor is active, and the capture is started twice. -/
def mixedUses : List GuardUse :=
  [.saveScope .stderr, .suppress .stderr true, .redirect 0 .discardDevice, .makeCapture true,
    .start 2, .write .stdout (Bytes.ofText "half a"), .start 2, .finish 2 .called,
    .finish 1 .dropped, .finish 0 .called, .finish 0 .called, .finish 2 .taken]

/-- Such a run ends where it started. -/
theorem nested_guards_compose_mixed :
    let host : Host := { table := DescriptorTable.standard.close 1 }
    isNested {} host mixedUses = true ∧
      (run {} mixedUses host).1.ended.length = 3 ∧
      (run {} mixedUses host).2.opened = host.opened := by
  intro host
  have nested : isNested {} host mixedUses = true := by decide +kernel
  refine ⟨nested, by decide +kernel, ?_⟩
  exact (nested_guards_compose host mixedUses nested).1 (by decide +kernel)

end Nest

end CompileDriver
