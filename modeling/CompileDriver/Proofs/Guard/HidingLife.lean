import CompileDriver.Proofs.Guard.Hiding

/-!
# The life of a suppressor

A process writes to the streams; at some time it makes a suppressor for one of them, which
it may restore as often as it likes and drops in the end, and maybe it makes another one
later.  `Situation.life` records each use with the situations before and after it.

The state of the suppressor depends on nothing but the uses and on whether the stream could
be hidden when the suppressor was made.
-/

namespace CompileDriver.Suppressor

/-- One use of a suppressor, or something else that happens meanwhile. -/
inductive Use
  /-- Make a suppressor, unless there is one. -/
  | engage (wanted : Bool)
  | restore
  /-- Let go of the suppressor. -/
  | drop
  /-- The process writes to a stream. -/
  | write (stream : Stream) (bytes : Bytes)
  /-- The reader threads move. -/
  | readers (round : Round)
  deriving DecidableEq

namespace Use

/-- Do it with the suppressor that there is for a stream. -/
def perform (stream : Stream) (suppressor : Option Suppressor) : Use → Action (Option Suppressor)
  | .engage wanted =>
      match suppressor with
      | none => do return some (← Suppressor.engage stream wanted)
      | some suppressor => return some suppressor
  | .restore =>
      match suppressor with
      | none => return none
      | some suppressor => do return some (← suppressor.restore)
  | .drop =>
      match suppressor with
      | none => return none
      | some suppressor => do
          discard suppressor.restore
          return none
  | .write other bytes => do
      other.write bytes
      return suppressor
  | .readers round => do
      modify fun host => host.playRound round
      return suppressor

/-- Whether a suppressor is neither made nor dropped. -/
def IsMeanwhile : Use → Prop
  | .engage _ | .drop => False
  | _ => True

end Use

/-- What the log says when a stream cannot be hidden. -/
def complaint (stream : Stream) (error : OsError) : String :=
  s!"leaving `{stream.name}` visible, couldn't suppress it: {error.message}"

/-- The suppressor for a stream, as long as there is one, and the host. -/
structure Situation where
  stream : Stream
  suppressor : Option Suppressor
  host : Host

/-- A use with what it led from and to. -/
structure Deed where
  use : Use
  before : Situation
  after : Situation

namespace Situation

/-- The state of the suppressor. -/
def state (now : Situation) : Option SuppressorState :=
  now.suppressor.map Suppressor.state

/-- Whether a stream is hidden. -/
def hides (now : Situation) (stream : Stream) : Bool :=
  now.state = some .engaged && now.stream = stream

/-- Whether the stream can be hidden: it can be saved, the discard device can be opened and
the stream can be redirected. -/
def canHide (now : Situation) : Bool :=
  (discardStream now.stream now.host).1.isOk

/-- What is written to a stream on behalf of a suppressor that cannot be set up. -/
def excuse (now : Situation) (stream : Stream) : Bytes :=
  match discardStream now.stream now.host with
  | (.ok _, _) => []
  | (.error error, host) => host.remark (complaint now.stream error) stream

/-- Use the suppressor. -/
def deed (now : Situation) (use : Use) : Deed :=
  let (suppressor, host) := use.perform now.stream now.suppressor now.host
  { use, before := now, after := { now with suppressor, host } }

@[simp]
theorem use_deed (now : Situation) (use : Use) : (now.deed use).use = use :=
  rfl

@[simp]
theorem before_deed (now : Situation) (use : Use) : (now.deed use).before = now :=
  rfl

theorem deed_after {now : Situation} {use : Use} {suppressor : Option Suppressor} {host : Host}
    (performed : use.perform now.stream now.suppressor now.host = (suppressor, host)) :
    (now.deed use).after = { now with suppressor, host } := by
  simp only [deed, performed]

theorem deed_unchanged {now : Situation} {use : Use}
    (performed : use.perform now.stream now.suppressor now.host = (now.suppressor, now.host)) :
    (now.deed use).after = now :=
  deed_after performed

/-- Use the suppressor time after time. -/
def life (now : Situation) : List Use → List Deed
  | [] => []
  | use :: rest => now.deed use :: (now.deed use).after.life rest

/-- What the uses of a life lead to. -/
def ending (now : Situation) : List Use → Situation
  | [] => now
  | use :: rest => (now.deed use).after.ending rest

end Situation

namespace Deed

/-- What is written to a stream: by the process, or on its behalf when a suppressor cannot be
set up. -/
def written (stream : Stream) (deed : Deed) : Bytes :=
  match deed.use with
  | .write other bytes => other.only bytes stream
  | .engage wanted =>
      if wanted ∧ deed.before.suppressor = none then deed.before.excuse stream else []
  | _ => []

/-- What is written to a stream that is not hidden then. -/
def visible (stream : Stream) (deed : Deed) : Bytes :=
  if deed.before.hides stream then [] else deed.written stream

end Deed

/-! ## States -/

section

variable {stream : Stream} {host : Host}

theorem engage_unwanted (stream : Stream) (host : Host) :
    engage stream false host = (inert stream, host) :=
  rfl

/-- A stream that can be hidden is. -/
theorem engage_of_ok {scope : Scope} (hidden : (discardStream stream host).1 = .ok scope) :
    engage stream true host =
      ({ stream, scope := some scope, state := .engaged }, (discardStream stream host).2) := by
  rw [engage, if_neg (by decide), Action.bind_apply, hidden]
  rfl

/-- When a stream cannot be hidden, this is said in the log. -/
theorem engage_of_error {error : OsError} (failed : (discardStream stream host).1 = .error error) :
    engage stream true host =
      (inert stream, (Log.debug (complaint stream error) (discardStream stream host).2).2) := by
  rw [engage, if_neg (by decide), Action.bind_apply, failed]
  rfl

/-- A suppressor that is not engaged has nothing to restore. -/
theorem restore_of_unsaved {suppressor : Suppressor} (unsaved : suppressor.scope = none)
    (host : Host) : suppressor.restore host = (suppressor, host) := by
  rw [Suppressor.restore, unsaved]
  rfl

theorem restore_of_saved {suppressor : Suppressor} {scope : Scope}
    (saved : suppressor.scope = some scope) (host : Host) :
    suppressor.restore host =
      ({ suppressor with scope := none, state := .restored }, (scope.restore host).2) := by
  rw [Suppressor.restore, saved]
  rfl

/-- A suppressor has saved its stream if and only if it is engaged. -/
def IsSound (suppressor : Suppressor) : Prop :=
  suppressor.scope.isSome = true ↔ suppressor.state = .engaged

theorem isSound_engage (stream : Stream) (wanted : Bool) (host : Host) :
    (engage stream wanted host).1.IsSound := by
  have inert : (inert stream).IsSound := by simp [IsSound, Suppressor.inert]
  cases wanted with
  | false => exact inert
  | true =>
      cases hidden : (discardStream stream host).1 with
      | ok scope =>
          rw [engage_of_ok hidden]
          simp [IsSound]
      | error error =>
          rw [engage_of_error hidden]
          exact inert

theorem isSound_restore {suppressor : Suppressor} (sound : suppressor.IsSound) (host : Host) :
    (suppressor.restore host).1.IsSound := by
  cases saved : suppressor.scope with
  | none => rwa [restore_of_unsaved saved]
  | some scope =>
      rw [restore_of_saved saved]
      simp [IsSound]

/-- A suppressor that is wanted is engaged if the stream can be hidden, and inert
otherwise. -/
theorem state_engage (stream : Stream) (wanted : Bool) (host : Host) :
    (engage stream wanted host).1.state =
      if wanted && (discardStream stream host).1.isOk then .engaged else .inert := by
  cases wanted with
  | false => rfl
  | true =>
      cases hidden : (discardStream stream host).1 with
      | ok scope =>
          rw [engage_of_ok hidden]
          rfl
      | error error =>
          rw [engage_of_error hidden]
          rfl

/-- Only an engaged suppressor is changed by restoring it. -/
theorem state_restore {suppressor : Suppressor} (sound : suppressor.IsSound) (host : Host) :
    (suppressor.restore host).1.state =
      if suppressor.state = .engaged then .restored else suppressor.state := by
  cases saved : suppressor.scope with
  | none =>
      have idle : suppressor.state ≠ .engaged := by
        intro engaged
        simpa [saved] using sound.mpr engaged
      rw [restore_of_unsaved saved, if_neg idle]
  | some scope =>
      have engaged : suppressor.state = .engaged := sound.mp (by simp [saved])
      rw [restore_of_saved saved, if_pos engaged]

end

namespace Situation

/-- The suppressor that there is, is sound. -/
def IsSound (now : Situation) : Prop :=
  ∀ suppressor, now.suppressor = some suppressor → suppressor.IsSound

variable {now : Situation}

theorem isSound_of_unused (unused : now.suppressor = none) : now.IsSound := by
  simp [IsSound, unused]

theorem isSound_deed (sound : now.IsSound) (use : Use) : (now.deed use).after.IsSound := by
  rintro suppressor made
  cases use with
  | engage wanted =>
      cases before : now.suppressor with
      | none =>
          simp only [deed, Use.perform, before] at made
          cases made
          exact isSound_engage _ _ _
      | some old =>
          simp only [deed, Use.perform, before] at made
          cases made
          exact sound _ before
  | restore =>
      cases before : now.suppressor with
      | none =>
          simp only [deed, Use.perform, before] at made
          cases made
      | some old =>
          simp only [deed, Use.perform, before] at made
          cases made
          exact isSound_restore (sound old before) _
  | drop =>
      cases before : now.suppressor with
      | none =>
          simp only [deed, Use.perform, before] at made
          cases made
      | some old =>
          simp only [deed, Use.perform, before] at made
          cases made
  | write stream bytes => exact sound suppressor made
  | readers round => exact sound suppressor made

theorem ending_append (now : Situation) (earlier later : List Use) :
    now.ending (earlier ++ later) = (now.ending earlier).ending later := by
  induction earlier generalizing now with
  | nil => rfl
  | cons use rest ih => exact ih _

/-- As long as a suppressor is neither made nor dropped, only restoring it changes its
state. -/
theorem state_meanwhile (sound : now.IsSound) {use : Use} (meanwhile : use.IsMeanwhile)
    {state : SuppressorState} (before : now.state = some state) :
    (now.deed use).after.state =
      some (if state = .engaged ∧ use = .restore then .restored else state) := by
  cases use with
  | engage | drop => exact meanwhile.elim
  | restore =>
      obtain ⟨suppressor, there, rfl⟩ := Option.map_eq_some_iff.mp before
      simp only [Situation.state, deed, Use.perform, there]
      simpa using state_restore (sound suppressor there) now.host
  | write stream bytes =>
      have kept : (now.deed (.write stream bytes)).after.state = now.state := rfl
      simp [kept, before]
  | readers round =>
      have kept : (now.deed (.readers round)).after.state = now.state := rfl
      simp [kept, before]

theorem state_ending (sound : now.IsSound) {uses : List Use}
    (meanwhile : ∀ use ∈ uses, use.IsMeanwhile) {state : SuppressorState}
    (before : now.state = some state) :
    (now.ending uses).state =
      some (if state = .engaged ∧ .restore ∈ uses then .restored else state) := by
  induction uses generalizing now state with
  | nil => simp [ending, before]
  | cons use rest ih =>
      obtain ⟨first, others⟩ := List.forall_mem_cons.mp meanwhile
      rw [ending, ih (isSound_deed sound use) others (state_meanwhile sound first before)]
      by_cases engaged : state = .engaged
      · by_cases restoring : use = .restore
        · simp [engaged, restoring]
        · simp [engaged, restoring, Ne.symm restoring]
      · simp [engaged]

/-- A suppressor is inert for ever when it is not wanted or cannot be set up; otherwise it is
engaged until it is restored for the first time. -/
theorem state_ending_engage (unused : now.suppressor = none) (wanted : Bool) {uses : List Use}
    (meanwhile : ∀ use ∈ uses, use.IsMeanwhile) :
    (now.ending (.engage wanted :: uses)).state =
      some (if wanted && now.canHide then if .restore ∈ uses then .restored else .engaged
        else .inert) := by
  have made : (now.deed (.engage wanted)).after.state =
      some (if wanted && now.canHide then .engaged else .inert) := by
    simp only [Situation.state, deed, Use.perform, unused]
    exact congrArg some (state_engage now.stream wanted now.host)
  rw [ending, state_ending (isSound_deed (isSound_of_unused unused) _) meanwhile made]
  cases wanted && now.canHide <;> simp

end Situation

end CompileDriver.Suppressor
