import CompileDriver.Host.Start
import CompileDriver.Proofs.Guard.Uses
import CompileDriver.Proofs.Host.Notes
import CompileDriver.Proofs.Host.Spawn

/-!
# Guarding one stream

What scopes and suppressors for one stream do to the number of the other one.  As
long as the other stream is open no new descriptor takes its number, so that the
number refers to the same open file at every moment.  Nothing can be saved of a
closed stream, so that guards for it change no number at all.

Only the copy of an open stream can get in the way: it takes the lowest free number,
which is that of the other stream when that one alone is closed.  The copy then opens
the closed stream again, onto the target of the stream that is guarded.
-/

namespace CompileDriver

/-- The other one of the two streams. -/
def Stream.other : Stream → Stream
  | .stdout => .stderr
  | .stderr => .stdout

theorem Stream.other_number_ne (stream : Stream) : stream.other.number ≠ stream.number := by
  cases stream <;> decide

namespace Host

/-- At every moment between two states, and at the end, a number refers to what it
referred to at first. -/
structure Preserves (number : Nat) (before after : Host) : Prop where
  moments : Notes (fun moment => moment.table.file? number = before.table.file? number) before after
  last : after.table.file? number = before.table.file? number

namespace Preserves

variable {number : Nat} {before after first second third : Host}

theorem refl (host : Host) : Preserves number host host where
  moments := .refl host
  last := rfl

theorem trans (start : Preserves number first second) (rest : Preserves number second third) :
    Preserves number first third where
  moments :=
    start.moments.trans (rest.moments.weaken fun _ same => same.trans start.last)
  last := rest.last.trans start.last

theorem of_table (table : after.table = before.table) (journal : after.journal = before.journal) :
    Preserves number before after where
  moments := .of_journal journal
  last := by rw [table]

theorem of_utterances {foreign : Nat → Prop} (utterances : Utterances foreign before after) :
    Preserves number before after where
  moments := utterances.notes.weaken fun _ same => by rw [same]
  last := by rw [utterances.table]

/-- A system call notes one moment, after its change. -/
theorem endCall (journal : after.journal = before.journal)
    (same : after.table.file? number = before.table.file? number) :
    Preserves number before after.endCall where
  moments := Notes.trans (.of_journal journal) (.endCall after same)
  last := by rw [Host.endCall, (readersRan_takeTurn _).table, note, same]

end Preserves

end Host

variable {α β : Type}

/-! ## Disciplines for a number -/

/-- To keep what a number refers to, which has to be open. -/
def keeping (number : Nat) : Discipline where
  needs host := host.table.file? number ≠ none
  allows := Host.Preserves number
  refl := .refl
  trans := .trans
  keeps isOpen kept := by rwa [kept.last]

/-- To keep what all numbers refer to, as long as a given one is closed. -/
def missing (number : Nat) : Discipline where
  needs host := host.table.file? number = none
  allows before after := ∀ other, Host.Preserves other before after
  refl host _ := .refl host
  trans start rest other := (start other).trans (rest other)
  keeps isClosed kept := by rw [(kept _).last, isClosed]

/-- To keep what all numbers refer to. -/
def keepingAll : Discipline where
  needs _ := True
  allows before after := ∀ other, Host.Preserves other before after
  refl host _ := .refl host
  trans start rest other := (start other).trans (rest other)
  keeps _ _ := trivial

theorem keepingAll_letsRun : keepingAll.LetsRun where
  anywhere _ := trivial
  utterances utterances _ := .of_utterances utterances
  files _ _ _ := .of_table rfl rfl
  numberLimit _ _ _ := .of_table rfl rfl

namespace Discipline.Governs

variable {action : Action α} {yields : α → Prop}

theorem keeping (governs : keepingAll.Governs action yields) (number : Nat) :
    (keeping number).Governs action yields :=
  governs.relax (fun _ _ => trivial) fun _ _ kept => kept number

theorem missing (governs : keepingAll.Governs action yields) (number : Nat) :
    (missing number).Governs action yields :=
  governs.relax (fun _ _ => trivial) fun _ _ kept => kept

end Discipline.Governs

/-- Writing keeps all numbers. -/
theorem Speaks.keepsAll {action : Action α} {yields : α → Prop}
    (speaks : Speaks (fun _ => False) action yields) : keepingAll.Governs action yields :=
  keepingAll_letsRun.speaks speaks

/-! ## System calls while the number is open -/

namespace Keeping

variable {number : Nat}

theorem acquire {call : Host → Except OsError (α × Host)} {yields : α → Prop}
    (kept : ∀ host value next, host.table.file? number ≠ none → call host = .ok (value, next) →
      next.journal = host.journal ∧ next.table.file? number = host.table.file? number ∧
        yields value) :
    (keeping number).Governs (SystemCall.acquire call) fun outcome =>
      ∀ value, outcome = .ok value → yields value := by
  intro host isOpen
  obtain ⟨refusals, ⟨error, failed⟩ | ⟨value, next, done, granted⟩⟩ :=
    SystemCall.acquire_cases call host
  · rw [Discipline.GovernsAt, failed]
    constructor
    · exact .endCall rfl rfl
    · rintro _ ⟨⟩
  · obtain ⟨journal, same, known⟩ := kept { host with refusals } value next isOpen done
    rw [Discipline.GovernsAt, granted]
    constructor
    · exact .endCall journal same
    · rintro _ ⟨⟩
      exact known

/-- A new descriptor takes another number than the open one. -/
theorem occupied {table : DescriptorTable} (isOpen : table.file? number ≠ none)
    (descriptor : Descriptor) :
    (table.occupy descriptor).file? number = table.file? number ∧ table.lowestFree ≠ number := by
  have different : table.lowestFree ≠ number := by
    rintro rfl
    exact isOpen table.file?_lowestFree
  rw [table.file?_occupy, if_neg different.symm]
  exact ⟨rfl, different⟩

theorem duplicate (source : Nat) :
    (keeping number).Governs (SystemCall.duplicate source) fun outcome =>
      ∀ copy, outcome = .ok copy → copy ≠ number := by
  apply acquire
  intro host copy next isOpen done
  obtain ⟨descriptor, -, rfl, rfl⟩ := Host.duplicate_ok done
  exact ⟨rfl, occupied isOpen _⟩

theorem openDiscard :
    (keeping number).Governs SystemCall.openDiscard fun outcome =>
      ∀ device, outcome = .ok device → device ≠ number := by
  apply acquire
  intro host device next isOpen done
  obtain ⟨rfl, rfl⟩ := Host.openAs_ok done
  exact ⟨rfl, occupied isOpen _⟩

theorem openAppending (path : Path) :
    (keeping number).Governs (SystemCall.openAppending path) fun outcome =>
      ∀ file, outcome = .ok file → file ≠ number := by
  apply acquire
  intro host file next isOpen done
  obtain ⟨rfl, tree, place, rfl⟩ := Host.openAppending_ok done
  exact ⟨rfl, occupied isOpen _⟩

theorem redirect (source : Nat) {target : Nat} (different : target ≠ number) :
    (keeping number).Governs (SystemCall.redirect source target) fun _ => True := by
  have redirected : (keeping number).Governs (SystemCall.redirect source target) fun outcome =>
      ∀ value, outcome = .ok value → True := by
    apply acquire
    intro host value next _ done
    obtain ⟨-, rfl⟩ := Host.redirect_ok done
    exact ⟨rfl, host.table.file?_pointTo_of_ne source different.symm, trivial⟩
  exact redirected.weaken fun _ _ => trivial

theorem giveBack (saved : Nat) {target : Nat} (different : target ≠ number) :
    (keeping number).Governs (SystemCall.giveBack saved target) fun _ => True := by
  intro host _
  rcases SystemCall.perform_cases (·.redirect saved target) host with
    ⟨error, -, failed⟩ | ⟨value, next, done, granted⟩
  · rw [Discipline.GovernsAt, SystemCall.giveBack, failed]
    exact ⟨.endCall rfl rfl, trivial⟩
  · obtain ⟨-, rfl⟩ := Host.redirect_ok done
    rw [Discipline.GovernsAt, SystemCall.giveBack, granted]
    exact ⟨.endCall rfl (host.table.file?_pointTo_of_ne saved different.symm), trivial⟩

theorem close {closed : Nat} (different : closed ≠ number) :
    (keeping number).Governs (SystemCall.close closed) fun _ => True := by
  intro host _
  refine ⟨.endCall rfl ?_, trivial⟩
  rw [host.table.file?_close, if_neg different.symm]

end Keeping

/-! ## Guards that stay clear of a number -/

/-- The scope is for a stream, and it does not keep a number. -/
structure Scope.Clear (stream : Stream) (number : Nat) (scope : Scope) : Prop where
  stream : scope.stream = stream
  saved : scope.saved ≠ some number

/-- The scope of a suppressor, when it has one, is clear of a number. -/
def Suppressor.Clear (stream : Stream) (number : Nat) (suppressor : Suppressor) : Prop :=
  ∀ scope, suppressor.scope = some scope → scope.Clear stream number

/-- The guard is no capture, and clear of a number. -/
def Guard.Clear (stream : Stream) (number : Nat) : Guard → Prop
  | .suppressor guard => guard.Clear stream number
  | .scope guard => guard.Clear stream number
  | .capture _ => False

/-- All guards that are left satisfy a condition. -/
def Guards.All (condition : Guard → Prop) (guards : Guards) : Prop :=
  ∀ guard, some guard ∈ guards → condition guard

namespace Guards.All

variable {condition : Guard → Prop} {guards : Guards}

theorem append (all : guards.All condition) {guard : Guard} (known : condition guard) :
    Guards.All condition (guards ++ [some guard]) := by
  intro other member
  rcases List.mem_append.mp member with old | new
  · exact all other old
  · cases List.mem_singleton.mp new
    exact known

theorem set (all : guards.All condition) (number : Nat) {guard : Option Guard}
    (known : ∀ left, guard = some left → condition left) :
    Guards.All condition (guards.set number guard) := by
  intro other member
  rcases List.mem_or_eq_of_mem_set member with old | new
  · exact all other old
  · exact known other new.symm

theorem guard? (all : guards.All condition) {number : Nat} {guard : Guard}
    (found : guards.guard? number = some guard) : condition guard := by
  apply all
  obtain ⟨slot, present, rfl⟩ : ∃ slot, guards[number]? = some slot ∧ slot = some guard := by
    simpa [Guards.guard?, Option.join_eq_some_iff] using found
  exact List.mem_of_getElem? present

end Guards.All

namespace Keeping

variable {stream : Stream} {number : Nat}

theorem flush (stream : Stream) : keepingAll.Governs stream.flush fun _ => True :=
  (Speaks.flush (fun _ => not_false) stream).keepsAll

theorem save (stream : Stream) :
    (keeping number).Governs (Scope.save stream) fun outcome =>
      ∀ scope, outcome = .ok scope → scope.Clear stream number := by
  refine ((flush stream).keeping number).bind fun _ _ => ?_
  refine (duplicate stream.number).bind fun outcome clear => ?_
  cases outcome with
  | error error =>
      apply Discipline.Governs.value
      rintro _ ⟨⟩
  | ok copy =>
      apply Discipline.Governs.value
      rintro _ ⟨⟩
      constructor
      · rfl
      · simpa using clear copy rfl

variable (different : stream.number ≠ number)
include different

theorem redirectTo {scope : Scope} (clear : scope.Clear stream number) (source : Nat) :
    (keeping number).Governs (scope.redirectTo source) fun _ => True := by
  apply redirect source
  rwa [clear.stream]

theorem restore {scope : Scope} (clear : scope.Clear stream number) :
    (keeping number).Governs scope.restore (Scope.Clear stream number) := by
  unfold Scope.restore
  split
  · exact .value clear
  · rename_i copy saved
    have isOther : copy ≠ number := by
      rintro rfl
      exact clear.saved saved
    refine ((flush scope.stream).keeping number).bind fun _ _ => ?_
    refine (giveBack copy (clear.stream ▸ different)).discarded.bind fun _ _ => ?_
    refine (close isOther).bind fun _ _ => ?_
    exact .value ⟨clear.stream, by simp⟩

theorem discardStream :
    (keeping number).Governs (Suppressor.discardStream stream) fun outcome =>
      ∀ scope, outcome = .ok scope → scope.Clear stream number := by
  refine (save stream).bind fun saved isClear => ?_
  cases saved with
  | error error => exact .value fun _ impossible => nomatch impossible
  | ok scope =>
      have clear := isClear scope rfl
      refine openDiscard.bind fun opened isOther => ?_
      cases opened with
      | error error =>
          refine (restore different clear).discarded.bind fun _ _ => ?_
          exact .value fun _ impossible => nomatch impossible
      | ok device =>
          refine (redirectTo different clear device).bind fun redirected _ => ?_
          cases redirected with
          | error error =>
              refine (close (isOther device rfl)).bind fun _ _ => ?_
              refine (restore different clear).discarded.bind fun _ _ => ?_
              exact .value fun _ impossible => nomatch impossible
          | ok value =>
              refine (close (isOther device rfl)).bind fun _ _ => ?_
              exact .value isClear

theorem restoreSuppressor {suppressor : Suppressor} (clear : suppressor.Clear stream number) :
    (keeping number).Governs suppressor.restore (Suppressor.Clear stream number) := by
  unfold Suppressor.restore
  split
  · exact .value clear
  · rename_i scope present
    refine (restore different (clear scope present)).discarded.bind fun _ _ => ?_
    apply Discipline.Governs.value
    rintro _ ⟨⟩

theorem redirectAt {scope : Scope} (clear : scope.Clear stream number) (target : Target) :
    (keeping number).Governs (scope.redirectAt target) fun _ => True := by
  have opened {opening : Action (Except OsError Nat)}
      (opens : (keeping number).Governs opening fun outcome =>
        ∀ file, outcome = .ok file → file ≠ number) :
      (keeping number).Governs (scope.redirectToOpened opening) fun _ => True := by
    refine opens.bind fun outcome isOther => ?_
    cases outcome with
    | error error => exact .value trivial
    | ok file =>
        refine (redirectTo different clear file).discarded.bind fun _ _ => ?_
        exact close (isOther file rfl)
  cases target with
  | number source => exact (redirectTo different clear source).discarded
  | discardDevice => exact opened openDiscard
  | file path => exact opened (openAppending path)

theorem finish {guard : Guard} (clear : guard.Clear stream number) :
    (keeping number).Governs guard.finish (Guard.Clear stream number) := by
  cases guard with
  | suppressor suppressor =>
      exact (restoreSuppressor different clear).bind fun _ restored => .value restored
  | scope scope => exact (restore different clear).bind fun _ restored => .value restored
  | capture capture => exact clear.elim

end Keeping

/-! ## Guards for a closed stream -/

/-- The guard is a suppressor that has no scope. -/
def Guard.IsInert : Guard → Prop
  | .suppressor guard => guard.scope = none
  | .scope _ | .capture _ => False

namespace Missing

variable (stream : Stream)

theorem flush : (missing stream.number).Governs stream.flush fun _ => True :=
  (Speaks.flush (fun _ => not_false) stream).keepsAll.missing stream.number

/-- A closed number cannot be duplicated. -/
theorem duplicate (number : Nat) :
    (missing number).Governs (SystemCall.duplicate number) fun outcome =>
      ∀ copy, outcome ≠ .ok copy := by
  intro host isClosed
  obtain ⟨refusals, ⟨error, failed⟩ | ⟨copy, next, done, -⟩⟩ :=
    SystemCall.acquire_cases (·.duplicate number) host
  · rw [Discipline.GovernsAt, SystemCall.duplicate, failed]
    constructor
    · exact fun _ => .endCall rfl rfl
    · rintro _ ⟨⟩
  · obtain ⟨descriptor, found, -⟩ := Host.duplicate_ok done
    have present := host.table.file?_of_get? found
    rw [isClosed] at present
    cases present

theorem save :
    (missing stream.number).Governs (Scope.save stream) fun outcome =>
      ∀ scope, outcome ≠ .ok scope := by
  refine (flush stream).bind fun _ _ => (duplicate stream.number).bind fun outcome failed => ?_
  cases outcome with
  | ok copy => exact absurd rfl (failed copy)
  | error error =>
      apply Discipline.Governs.value
      rintro _ ⟨⟩

theorem discardStream :
    (missing stream.number).Governs (Suppressor.discardStream stream) fun outcome =>
      ∀ scope, outcome ≠ .ok scope := by
  refine (save stream).bind fun saved failed => ?_
  cases saved with
  | ok scope => exact absurd rfl (failed scope)
  | error error =>
      apply Discipline.Governs.value
      rintro _ ⟨⟩

theorem finish {guard : Guard} (isInert : guard.IsInert) :
    (missing stream.number).Governs guard.finish Guard.IsInert := by
  cases guard with
  | suppressor suppressor =>
      have same : suppressor.restore = pure suppressor := by
        simp only [Suppressor.restore, show suppressor.scope = none from isInert]
      rw [Guard.finish, same]
      exact .value isInert
  | scope scope => exact isInert.elim
  | capture capture => exact isInert.elim

end Missing

/-! ## Runs -/

/-- The use is of guards for one stream only, and not of captures. -/
def GuardUse.Concerns (stream : Stream) : GuardUse → Prop
  | .suppress other _ | .saveScope other => other = stream
  | .makeCapture _ => False
  | .start _ | .redirect _ _ | .finish _ _ | .write _ _ | .child _ _ => True

/-- A discipline for what is done with guards for one stream.  The guards that there
are satisfy a condition, and so do those that are made and those that are left. -/
structure Discipline.Handles (discipline : Discipline) (stream : Stream)
    (condition : Guard → Prop) : Prop where
  undisturbed : ∀ {α : Type} {action : Action α} {yields : α → Prop},
    keepingAll.Governs action yields → discipline.Governs action yields
  noCapture : ∀ capture, ¬ condition (.capture capture)
  inert : condition (.suppressor (.inert stream))
  discardStream : discipline.Governs (Suppressor.discardStream stream) fun outcome =>
    ∀ scope, outcome = .ok scope →
      condition (.suppressor { stream, scope := some scope, state := .engaged })
  save : discipline.Governs (Scope.save stream) fun outcome =>
    ∀ scope, outcome = .ok scope → condition (.scope scope)
  redirectAt : ∀ {scope}, condition (.scope scope) → ∀ target,
    discipline.Governs (scope.redirectAt target) fun _ => True
  finish : ∀ {guard}, condition guard → discipline.Governs guard.finish condition

/-- While the other stream is open, its number is kept. -/
theorem keeping_handles {stream : Stream} {number : Nat} (different : stream.number ≠ number) :
    (keeping number).Handles stream (Guard.Clear stream number) where
  undisturbed governs := governs.keeping number
  noCapture _ := id
  inert _ impossible := nomatch impossible
  discardStream := by
    apply (Keeping.discardStream different).weaken
    rintro outcome isClear scope discarded _ ⟨⟩
    exact isClear scope discarded
  save := Keeping.save stream
  redirectAt clear := Keeping.redirectAt different clear
  finish clear := Keeping.finish different clear

/-- While the stream is closed, all guards for it are inert. -/
theorem missing_handles (stream : Stream) :
    (missing stream.number).Handles stream Guard.IsInert where
  undisturbed governs := governs.missing stream.number
  noCapture _ := id
  inert := rfl
  discardStream := (Missing.discardStream stream).weaken fun _ failed scope discarded =>
    absurd discarded (failed scope)
  save := (Missing.save stream).weaken fun _ failed scope saved => absurd saved (failed scope)
  redirectAt isInert := isInert.elim
  finish isInert := Missing.finish stream isInert

namespace Discipline.Handles

variable {discipline : Discipline} {stream : Stream} {condition : Guard → Prop}

theorem engage (handles : discipline.Handles stream condition) (wanted : Bool) :
    discipline.Governs (Suppressor.engage stream wanted) fun suppressor =>
      condition (.suppressor suppressor) := by
  unfold Suppressor.engage
  split
  · exact .value handles.inert
  · refine handles.discardStream.bind fun outcome known => ?_
    cases outcome with
    | ok scope => exact .value (known scope rfl)
    | error error =>
        refine (handles.undisturbed (Speaks.debug (fun _ => not_false) _).keepsAll).bind ?_
        exact fun _ _ => .value handles.inert

theorem finishBy (handles : discipline.Handles stream condition) {guard : Guard}
    (known : condition guard) (how : Finish) :
    discipline.Governs (guard.finishBy how) fun outcome =>
      ∀ left, outcome = some left → condition left := by
  have dropped : discipline.Governs
      (do discard guard.finish
          return (none : Option Guard)) fun outcome =>
        ∀ left, outcome = some left → condition left := by
    refine (handles.finish known).discarded.bind fun _ _ => ?_
    exact .value fun _ impossible => nomatch impossible
  cases how with
  | called =>
      refine (handles.finish known).bind fun finished stillKnown => ?_
      apply Governs.value
      rintro _ ⟨⟩
      exact stillKnown
  | dropped => exact dropped
  | taken =>
      cases guard with
      | capture capture => exact absurd known (handles.noCapture capture)
      | suppressor suppressor => exact dropped
      | scope scope => exact dropped

/-- Every use of guards for the stream follows the discipline. -/
theorem perform (handles : discipline.Handles stream condition) {guards : Guards}
    (known : guards.All condition) (use : GuardUse) (concerns : use.Concerns stream) :
    discipline.Governs (use.perform guards) (Guards.All condition) := by
  cases use with
  | suppress other wanted =>
      cases concerns
      exact (handles.engage wanted).bind fun _ isKnown => .value (known.append isKnown)
  | saveScope other =>
      cases concerns
      refine handles.save.bind fun outcome isKnown => ?_
      cases outcome with
      | error error => exact .value known
      | ok scope => exact .value (known.append (isKnown scope rfl))
  | makeCapture nonblocking => exact concerns.elim
  | start number =>
      dsimp only [GuardUse.perform]
      split
      · rename_i capture found
        exact absurd (known.guard? found) (handles.noCapture capture)
      · exact .value known
  | redirect number target =>
      dsimp only [GuardUse.perform]
      split
      · rename_i scope found
        exact (handles.redirectAt (known.guard? found) target).bind fun _ _ => .value known
      · exact .value known
  | finish number how =>
      dsimp only [GuardUse.perform]
      split
      · rename_i guard found
        refine (handles.finishBy (known.guard? found) how).bind fun left isKnown => ?_
        exact .value (known.set number isKnown)
      · exact .value known
  | write other bytes =>
      have written := (Speaks.writeStream (fun _ => not_false) other bytes).keepsAll
      exact (handles.undisturbed written).bind fun _ _ => .value known
  | child launcher invocation =>
      have ran := keepingAll_letsRun.inheriting launcher invocation
      exact (handles.undisturbed ran).discarded.bind fun _ _ => .value known

/-- What is recorded beside the guards does not matter. -/
theorem record_guards (nest : Nest) (use : GuardUse) (guards : Guards) (before after : OpenFiles) :
    (nest.record use guards before after).guards = guards := by
  have tracked (number : Nat) : (nest.track number guards before after).guards = guards := by
    unfold Nest.track
    split <;> rfl
  unfold Nest.record
  split
  · exact tracked _
  · split
    · split <;> rfl
    · rfl
  · rfl

theorem step (handles : discipline.Handles stream condition) {nest : Nest}
    (known : nest.guards.All condition) {use : GuardUse} (concerns : use.Concerns stream) :
    discipline.Governs (nest.step use) fun next => next.guards.All condition := by
  intro host needed
  obtain ⟨allowed, stillKnown⟩ := handles.perform known use concerns host needed
  constructor
  · exact allowed
  · change Guards.All condition (nest.record use _ _ _).guards
    rw [record_guards]
    exact stillKnown

/-- Every run of guards for the stream follows the discipline. -/
theorem run (handles : discipline.Handles stream condition) {uses : List GuardUse}
    (concern : ∀ use ∈ uses, use.Concerns stream) {nest : Nest}
    (known : nest.guards.All condition) :
    discipline.Governs (nest.run uses) fun last => last.guards.All condition := by
  induction uses generalizing nest with
  | nil => exact .value known
  | cons use rest ih =>
      have first := handles.step known (concern use List.mem_cons_self)
      exact first.bind fun next nextKnown =>
        ih (fun later member => concern later (List.mem_cons_of_mem use member)) nextKnown

end Discipline.Handles

namespace Nest

/-- Guarding one stream leaves the other one alone, when that is open or when there
is nothing to guard.  Whatever is done with scopes and suppressors for a stream, in
any order and whichever acquisitions fail, and whatever is written in between: at
every moment the number of the other stream refers to what it referred to at
first. -/
theorem guards_keep_other_stream (stream : Stream) (host : Host) (uses : List GuardUse)
    (concern : ∀ use ∈ uses, use.Concerns stream)
    (able : host.opened stream.other.number ≠ none ∨ host.opened stream.number = none) :
    host.Preserves stream.other.number (run {} uses host).2 := by
  rcases able with isOpen | isClosed
  · have handles := keeping_handles stream.other_number_ne.symm
    exact (handles.run concern (by simp [Guards.All]) host isOpen).1
  · exact ((missing_handles stream).run concern (by simp [Guards.All]) host isClosed).1 _

/-- A suppressor and a redirected scope for standard error while a line is written to
standard output, where the second file is refused; and a suppressor for standard
error when that is closed. -/
theorem guards_keep_other_stream_refused :
    let host : Host :=
      { table := .standard, refusals := [none, none, none, none, some .tooManyOpen] }
    let uses : List GuardUse :=
      [.suppress .stderr true, .saveScope .stderr, .redirect 1 .discardDevice,
        .write .stdout (Bytes.ofText "seen\n"), .finish 0 .called, .finish 1 .dropped]
    let closed : Host := { table := DescriptorTable.standard.close 2 }
    host.Preserves 1 (run {} uses host).2 ∧
      (run {} uses host).2.received.stdout = Bytes.ofText "seen\n" ∧
      closed.Preserves 1 (run {} [.suppress .stderr true] closed).2 := by
  intro host uses closed
  have concern : ∀ use ∈ uses, use.Concerns .stderr := by
    simp [uses, GuardUse.Concerns]
  refine ⟨?_, by decide +kernel, ?_⟩
  · exact guards_keep_other_stream .stderr host uses concern (.inl (by decide))
  · exact guards_keep_other_stream .stderr closed [.suppress .stderr true]
      (by simp [GuardUse.Concerns]) (.inr (by decide))

end Nest

/-! ## When the other stream alone is closed -/

/-- The lowest free number is the one below which everything is taken. -/
theorem DescriptorTable.lowestFree_eq {table : DescriptorTable} {number : Nat}
    (isFree : table.file? number = none) (below : ∀ lower < number, table.file? lower ≠ none) :
    table.lowestFree = number := by
  apply Nat.le_antisymm
  · by_contra larger
    have taken := table.get?_isSome_of_lt (Nat.lt_of_not_le larger)
    rw [table.file?_eq_none_iff] at isFree
    simp [isFree] at taken
  · by_contra smaller
    exact below _ (Nat.lt_of_not_le smaller) table.file?_lowestFree

/-- When only one of the first three numbers is free and it is that of a stream, it is
the lowest free one. -/
theorem Stream.lowestFree_other {stream : Stream} {table : DescriptorTable}
    (input : table.file? 0 ≠ none) (isOpen : table.file? stream.number ≠ none)
    (isClosed : table.file? stream.other.number = none) :
    table.lowestFree = stream.other.number := by
  apply DescriptorTable.lowestFree_eq isClosed
  intro lower below
  cases stream with
  | stdout =>
      have known : lower = 0 ∨ lower = Stream.stdout.number := by
        simp only [other, number] at below ⊢
        omega
      rcases known with rfl | rfl
      · exact input
      · exact isOpen
  | stderr =>
      have known : lower = 0 := by
        simp only [other, number] at below
        omega
      exact known ▸ input

/-- When the input and the stream are open and the other stream is closed, saving the
stream opens the other one: the copy takes its number, and what is written to the
closed stream goes to the target of the saved one. -/
theorem Scope.save_opens_other {stream : Stream} {host next : Host} {scope : Scope}
    (input : host.opened 0 ≠ none) (isClosed : host.opened stream.other.number = none)
    (saved : Scope.save stream host = (.ok scope, next)) :
    scope.saved = some stream.other.number ∧
      next.opened stream.other.number = host.opened stream.number := by
  have flushed (number : Nat) :
      (stream.flush host).2.table.file? number = host.table.file? number :=
    ((Keeping.flush stream host trivial).1 number).last
  unfold Scope.save at saved
  rw [Action.bind_apply] at saved
  obtain ⟨refusals, ⟨error, failed⟩ | ⟨copy, later, done, granted⟩⟩ :=
    SystemCall.acquire_cases (·.duplicate stream.number) (stream.flush host).2
  · rw [Action.bind_apply, SystemCall.duplicate, failed] at saved
    cases saved
  · rw [Action.bind_apply, SystemCall.duplicate, granted] at saved
    cases saved
    obtain ⟨descriptor, found, rfl, rfl⟩ := Host.duplicate_ok done
    have present := DescriptorTable.file?_of_get? _ found
    have isLowest : (stream.flush host).2.table.lowestFree = stream.other.number := by
      apply Stream.lowestFree_other
      · rwa [flushed]
      · simp [present]
      · rwa [flushed]
    constructor
    · exact congrArg some isLowest
    · rw [(Host.still_endCall _).1, ← isLowest]
      change ((stream.flush host).2.table.occupy _).file? _ = host.table.file? _
      rw [DescriptorTable.file?_occupy, if_pos rfl, ← flushed, present]

/-- With standard output closed, hiding standard error opens standard output onto the
target of standard error: the line that is written to the closed stream appears
there. -/
theorem suppressor_opens_closed_stream :
    let host : Host := { table := DescriptorTable.standard.close 1 }
    let uses : List GuardUse := [.suppress .stderr true, .write .stdout (Bytes.ofText "lost\n")]
    host.opened 0 ≠ none ∧ (∀ use ∈ uses, use.Concerns .stderr) ∧
      (¬ host.Preserves 1 (Nest.run {} uses host).2) ∧
      (Nest.run {} uses host).2.received.stderr = Bytes.ofText "lost\n" := by
  intro host uses
  refine ⟨by decide, by simp [uses, GuardUse.Concerns], ?_, by decide +kernel⟩
  intro kept
  have reopened : (Nest.run {} uses host).2.table.file? 1 = some (.initial .stderr) := by
    decide +kernel
  have closedBefore : host.table.file? 1 = none := by decide
  rw [kept.last, closedBefore] at reopened
  cases reopened

end CompileDriver
