import CompileDriver.Proofs.Guard.Restore
import CompileDriver.Proofs.Guard.Uses

/-!
# Layers

An active guard is a layer on the open files: it owns some numbers, and it has
saved what some of the streams referred to.  `Layer.undo` takes the layer off.

A guard that is acquired puts its layer on the open files, so that undoing the
layer gives what there was before.  A guard that is ended undoes its layer, from
whatever the open files have become by then.
-/

namespace CompileDriver

open Function (update)

/-- What an active guard has put on the open files. -/
structure Layer where
  /-- The numbers that the guard will free. -/
  own : List Nat
  /-- Under which number the file of a number is saved. -/
  saves : Nat → Option Nat

namespace Layer

/-- The open files without the layer. -/
def undo (layer : Layer) (files : OpenFiles) : OpenFiles := fun number =>
  if number ∈ layer.own then none
  else
    match layer.saves number with
    | some copy => files copy
    | none => files number

/-- The layer lies on the open files: its numbers are taken, among them those of
the saved files, and what it will give back is open. -/
structure InPlace (layer : Layer) (files : OpenFiles) : Prop where
  taken : ∀ number ∈ layer.own, files number ≠ none
  saved : ∀ number copy, layer.saves number = some copy → copy ∈ layer.own
  streams : ∀ number copy, layer.saves number = some copy → number ∉ layer.own →
    files number ≠ none

variable {layer : Layer} {files : OpenFiles} {number : Nat}

theorem undo_own (isOwn : number ∈ layer.own) (files : OpenFiles) :
    layer.undo files number = none :=
  if_pos isOwn

theorem undo_saved {copy : Nat} (notOwn : number ∉ layer.own)
    (saves : layer.saves number = some copy) (files : OpenFiles) :
    layer.undo files number = files copy := by
  simp [undo, notOwn, saves]

theorem undo_other (notOwn : number ∉ layer.own) (notSaved : layer.saves number = none)
    (files : OpenFiles) : layer.undo files number = files number := by
  simp [undo, notOwn, notSaved]

/-- Opening a number moves no layer away. -/
theorem InPlace.update (inPlace : layer.InPlace files) (number : Nat) (file : OpenFile) :
    layer.InPlace (update files number (some file)) := by
  have stillOpen {other : Nat} (used : files other ≠ none) :
      Function.update files number (some file) other ≠ none := by
    rw [Function.update_apply]
    split
    · simp
    · exact used
  constructor
  · intro other isOwn
    exact stillOpen (inPlace.taken other isOwn)
  · exact inPlace.saved
  · intro other copy saves notOwn
    exact stillOpen (inPlace.streams other copy saves notOwn)

/-- What a number refers to does not matter when the layer has saved another file
for it. -/
theorem InPlace.undo_update_saved {copy : Nat} (inPlace : layer.InPlace files)
    (notOwn : number ∉ layer.own) (saves : layer.saves number = some copy) (file : OpenFile) :
    layer.undo (Function.update files number (some file)) = layer.undo files := by
  funext other
  by_cases isOwn : other ∈ layer.own
  · rw [undo_own isOwn, undo_own isOwn]
  · cases saved : layer.saves other with
    | some otherCopy =>
        rw [undo_saved isOwn saved, undo_saved isOwn saved, Function.update_of_ne]
        rintro rfl
        exact notOwn (inPlace.saved other _ saved)
    | none =>
        rw [undo_other isOwn saved, undo_other isOwn saved, Function.update_of_ne]
        rintro rfl
        rw [saves] at saved
        cases saved

/-- What a number refers to shows through a layer that has nothing to do with
it. -/
theorem InPlace.undo_update_other (inPlace : layer.InPlace files) (notOwn : number ∉ layer.own)
    (notSaved : layer.saves number = none) (file : OpenFile) :
    layer.undo (Function.update files number (some file)) =
      Function.update (layer.undo files) number (some file) := by
  funext other
  by_cases same : other = number
  · subst same
    rw [undo_other notOwn notSaved, Function.update_self, Function.update_self]
  · rw [Function.update_of_ne same]
    by_cases isOwn : other ∈ layer.own
    · rw [undo_own isOwn, undo_own isOwn]
    · cases saved : layer.saves other with
      | some copy =>
          rw [undo_saved isOwn saved, undo_saved isOwn saved, Function.update_of_ne]
          rintro rfl
          exact notOwn (inPlace.saved other _ saved)
      | none =>
          rw [undo_other isOwn saved, undo_other isOwn saved, Function.update_of_ne same]

/-! ## The layers of scopes and captures -/

/-- The layer of a scope. -/
def ofScope (stream : Stream) (copy : Nat) : Layer where
  own := [copy]
  saves number := if number = stream.number then some copy else none

/-- The layer of a wiring. -/
def ofWiring (wiring : Wiring) : Layer where
  own := wiring.numbers
  saves number :=
    if number = Stream.stdout.number then some wiring.copies.stdout
    else if number = Stream.stderr.number then some wiring.copies.stderr
    else none

theorem saves_ofScope (stream other : Stream) (copy : Nat) :
    (ofScope other copy).saves stream.number ≠ none ↔ stream = other := by
  have same : stream.number = other.number ↔ stream = other :=
    ⟨Stream.number_injective, congrArg _⟩
  simp [ofScope, same]

theorem undo_ofScope {stream : Stream} {copy : Nat} {file : OpenFile}
    (different : copy ≠ stream.number) (saved : files copy = some file) :
    (ofScope stream copy).undo files =
      Function.update (Function.update files stream.number (some file)) copy none := by
  funext number
  simp only [undo, ofScope, List.mem_singleton, Function.update_apply]
  by_cases isCopy : number = copy
  · simp [isCopy]
  · by_cases isStream : number = stream.number
    · simp [isStream, different.symm, saved]
    · simp [isCopy, isStream]

theorem saves_ofWiring_stream (wiring : Wiring) (stream : Stream) :
    (ofWiring wiring).saves stream.number = some (wiring.copies.get stream) := by
  cases stream <;> rfl
theorem saves_ofWiring_other (wiring : Wiring)
    (notStream : ∀ stream : Stream, number ≠ stream.number) :
    (ofWiring wiring).saves number = none := by
  simp [ofWiring, notStream .stdout, notStream .stderr]

theorem undo_ofWiring (wiring : Wiring) (files : OpenFiles) :
    (ofWiring wiring).undo files = wiring.released files := by
  funext number
  rcases wiring.number_cases number with
    member | ⟨notMember, stream, rfl⟩ | ⟨notMember, notStream⟩
  · rw [Wiring.released_mem member]
    exact undo_own member files
  · rw [Wiring.released_stream notMember]
    exact undo_saved notMember (saves_ofWiring_stream wiring stream) files
  · rw [Wiring.released_other notMember notStream]
    exact undo_other notMember (saves_ofWiring_other wiring notStream) files

theorem saves_ofWiring {wiring : Wiring} {copy : Nat}
    (saves : (ofWiring wiring).saves number = some copy) :
    ∃ stream : Stream, number = stream.number ∧ copy = wiring.copies.get stream := by
  by_cases isStream : ∃ stream : Stream, number = stream.number
  · obtain ⟨stream, rfl⟩ := isStream
    rw [saves_ofWiring_stream] at saves
    cases saves
    exact ⟨stream, rfl, rfl⟩
  · rw [saves_ofWiring_other wiring fun stream same => isStream ⟨stream, same⟩] at saves
    cases saves

/-- A scope that has just saved its stream, wherever the stream points then, is a
layer on the open files of before. -/
theorem ofScope_acquired {stream : Stream} {copy : Nat} {file : OpenFile} (target : OpenFile)
    (found : files stream.number = some file) (isFree : files copy = none) :
    copy ≠ stream.number ∧
      (ofScope stream copy).InPlace
        (Function.update (Function.update files copy (some file)) stream.number (some target)) ∧
      (ofScope stream copy).undo
        (Function.update (Function.update files copy (some file)) stream.number (some target)) =
        files := by
  have different : copy ≠ stream.number := by
    rintro rfl
    rw [found] at isFree
    cases isFree
  have saved : Function.update (Function.update files copy (some file)) stream.number
      (some target) copy = some file := by
    rw [Function.update_of_ne different, Function.update_self]
  refine ⟨different, ?_, ?_⟩
  · constructor
    · simp [ofScope, saved]
    · simp [ofScope]
    · intro number other saves notOwn
      simp only [ofScope] at saves
      split at saves
      · simp [*]
      · cases saves
  · rw [undo_ofScope different saved]
    funext number
    simp only [Function.update_apply]
    split
    · simp [*]
    · split
      · simp [*]
      · rfl

/-- A wiring that is in place is a layer. -/
theorem ofWiring_acquired {wiring : Wiring} {after : OpenFiles}
    (connects : wiring.Connects files after) :
    (ofWiring wiring).InPlace after ∧ (ofWiring wiring).undo after = files := by
  constructor
  · constructor
    · exact connects.taken
    · intro number copy saves
      obtain ⟨stream, -, rfl⟩ := saves_ofWiring saves
      exact Wiring.mem_numbers.mpr ⟨stream, .inr (.inr rfl)⟩
    · intro number copy saves _
      obtain ⟨stream, rfl, -⟩ := saves_ofWiring saves
      exact (connects.streams stream).1
  · rw [undo_ofWiring, connects.released]

end Layer

/-! ## The layers of guards -/

namespace Guard

/-- A guard that has nothing to give back. -/
inductive Idle : Guard → Prop
  | suppressor {guard : Suppressor} (given : guard.scope = none)
      (notEngaged : guard.isEngaged = false) : Idle (.suppressor guard)
  | scope (stream : Stream) : Idle (.scope { stream, saved := none })
  | capture {guard : Capture} (given : guard.taps = none) : Idle (.capture guard)

/-- An active guard and its layer. -/
inductive Holds : Guard → Layer → Prop
  | suppressor {stream : Stream} {copy : Nat} (different : copy ≠ stream.number) :
      Holds (.suppressor (.hiding stream copy)) (.ofScope stream copy)
  | scope {stream : Stream} {copy : Nat} (different : copy ≠ stream.number) :
      Holds (.scope { stream, saved := some copy }) (.ofScope stream copy)
  | capture {guard : Capture} {wiring : Wiring} {readers : PerStream (Option Nat)}
      (active : guard.taps = some (wiring.taps readers)) (apart : wiring.Apart) :
      Holds (.capture guard) (.ofWiring wiring)

theorem Idle.isActive {guard : Guard} (idle : guard.Idle) : guard.isActive = false := by
  cases idle with
  | suppressor given notEngaged => exact notEngaged
  | scope stream => rfl
  | capture given => simp [Guard.isActive, Capture.isActive, given]

theorem Holds.isActive {guard : Guard} {layer : Layer} (holds : guard.Holds layer) :
    guard.isActive = true := by
  cases holds with
  | suppressor different => rfl
  | scope different => rfl
  | capture active apart => simp [Guard.isActive, Capture.isActive, active]

/-- What an attempt to acquire a guard leads to: the guard is idle and nothing has
changed, or its layer lies on the open files of before. -/
def Acquired (files : OpenFiles) (guard : Guard) (host : Host) : Prop :=
  (guard.Idle ∧ host.opened = files) ∨
    ∃ layer, guard.Holds layer ∧ layer.InPlace host.opened ∧ layer.undo host.opened = files

end Guard

namespace Ensures

variable {files : OpenFiles} {threads : List (Nat × Nat)}

theorem engage_acquired (stream : Stream) (wanted : Bool) :
    Ensures (Host.Shows files threads) (Suppressor.engage stream wanted) fun guard =>
      Guard.Acquired files (.suppressor guard) := by
  refine (engage stream wanted).weaken ?_
  rintro guard host (⟨rfl, shows⟩ | ⟨copy, file, opening, rfl, found, isFree, shows⟩)
  · exact .inl ⟨.suppressor rfl rfl, shows.files⟩
  · obtain ⟨different, inPlace, undone⟩ :=
      Layer.ofScope_acquired (.discard opening) found isFree
    exact .inr ⟨_, .suppressor different, shows.files ▸ inPlace, shows.files ▸ undone⟩

theorem save_acquired (stream : Stream) :
    Ensures (Host.Shows files threads) (Scope.save stream)
      (Attempt files threads fun guard => Guard.Acquired files (.scope guard)) := by
  refine (save stream).weaken ?_
  rintro (error | guard) host saved
  · exact saved
  · obtain ⟨copy, file, rfl, found, isFree, shows⟩ := saved
    obtain ⟨different, inPlace, undone⟩ := Layer.ofScope_acquired file found isFree
    -- saving a stream leaves it where it points
    have same : update (update files copy (some file)) stream.number (some file) =
        update files copy (some file) := by
      rw [Function.update_eq_self_iff, Function.update_of_ne different.symm, found]
    rw [same, ← shows.files] at inPlace undone
    exact .inr ⟨_, .scope different, inPlace, undone⟩

theorem start_acquired {capture : Capture} (inactive : capture.taps = none) :
    Ensures (Host.Shows files threads) capture.start fun reached =>
      Guard.Acquired files (.capture reached.2) := by
  refine (start inactive).weaken ?_
  rintro ⟨error | done, guard⟩ host started
  · obtain ⟨given, shows⟩ := started
    exact .inl ⟨.capture given, shows.files⟩
  · obtain ⟨wiring, readers, pipes, now, active, connects, -, shows⟩ := started
    obtain ⟨inPlace, undone⟩ := Layer.ofWiring_acquired connects
    exact .inr ⟨_, .capture active connects.apart, shows.files ▸ inPlace, shows.files ▸ undone⟩

end Ensures

namespace Guard

/-- However a guard is ended, the same happens to the host. -/
theorem finishBy_host (guard : Guard) (how : Finish) (host : Host) :
    (guard.finishBy how host).2 = (guard.finish host).2 := by
  cases how with
  | called => rfl
  | dropped => rfl
  | taken => cases guard <;> rfl

/-- A guard that is still there after it was ended is what ending it yields. -/
theorem finishBy_left (guard : Guard) (how : Finish) (host : Host) :
    ∀ left ∈ (guard.finishBy how host).1, left = (guard.finish host).1 := by
  cases how with
  | called => simp [finishBy]
  | dropped => simp [finishBy]
  | taken => cases guard <;> simp [finishBy]

/-- An idle guard that is ended changes nothing and stays idle. -/
theorem Idle.finish {guard : Guard} (idle : guard.Idle) (host : Host) :
    (guard.finish host).2 = host ∧ (guard.finish host).1.Idle := by
  cases idle with
  | @suppressor guard given notEngaged =>
      rcases guard with ⟨stream, scope, state⟩
      cases given
      exact ⟨rfl, .suppressor rfl notEngaged⟩
  | scope stream => exact ⟨rfl, .scope stream⟩
  | @capture guard given =>
      rcases guard with ⟨captured, taps, nonblocking⟩
      cases given
      exact ⟨rfl, .capture rfl⟩

/-- An active guard that is ended takes its layer off, whatever the open files have
become. -/
theorem Holds.finish {guard : Guard} {layer : Layer} {files : OpenFiles}
    {threads : List (Nat × Nat)} (holds : guard.Holds layer) (inPlace : layer.InPlace files) :
    Ensures (Host.Shows files threads) guard.finish fun left host =>
      left.Idle ∧ host.opened = layer.undo files := by
  intro host shows
  cases holds with
  | @suppressor stream copy different =>
      obtain ⟨file, saved⟩ := Option.ne_none_iff_exists'.mp
        (inPlace.taken copy (List.mem_singleton_self copy))
      have restored := Ensures.restoreSuppressor stream saved host shows
      exact ⟨.suppressor rfl rfl, restored.files.trans (Layer.undo_ofScope different saved).symm⟩
  | @scope stream copy different =>
      obtain ⟨file, saved⟩ := Option.ne_none_iff_exists'.mp
        (inPlace.taken copy (List.mem_singleton_self copy))
      have restored := Ensures.restore stream saved host shows
      exact ⟨.scope stream, restored.files.trans (Layer.undo_ofScope different saved).symm⟩
  | @capture guard wiring readers active apart =>
      have saved (stream : Stream) : files (wiring.copies.get stream) ≠ none :=
        inPlace.taken _ (Wiring.mem_numbers.mpr ⟨stream, .inr (.inr rfl)⟩)
      obtain ⟨given, stopped⟩ := Ensures.stop active apart saved host shows
      exact ⟨.capture given, stopped.files.trans (Layer.undo_ofWiring wiring files).symm⟩

end Guard

end CompileDriver
