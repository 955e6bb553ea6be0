import CompileDriver.Proofs.Guard.HidingBooks

/-!
# Hiding is exact

Suppressors hide exactly what is written to their stream while they are engaged.  All the
rest passes to the original targets, in order, also when something is pending in the line
buffer at either end.
-/

namespace CompileDriver.Suppressor

variable {first now : Situation} {files : PerStream OpenFile} {visible : Stream → Bytes}

/-- What every deed of a life is like that begins with `first`. -/
structure Deed.Orderly (first : Situation) (deed : Deed) : Prop where
  /-- Unless the stream is hidden, all numbers refer to what they referred to at first. -/
  shown : deed.after.state ≠ some .engaged → deed.after.host.opened = first.host.opened
  /-- A hidden stream points at the discard device, and its file is saved under a number that
  was free. -/
  veiled : deed.after.state = some .engaged → ∃ copy opening,
    first.host.opened copy = none ∧
      first.host.opened first.stream.number ≠ some (.discard opening) ∧
      deed.after.host.opened = first.host.opened.veiled first.stream copy opening
  /-- Nothing passes to the file of a hidden stream. -/
  hidden : deed.before.state = some .engaged → ∀ file,
    first.host.opened first.stream.number = some file →
      deed.after.host.passedSince deed.before.host first.stream.number file = []
  /-- Nothing is left that could pass when the stream is no longer hidden. -/
  swallowed : deed.before.state = some .engaged → deed.after.state ≠ some .engaged →
    deed.after.host.heldBack first.stream = []

/-! ## One use -/

/-- A life that began with `first`: since then the process has written `visible` to the
streams while they were not hidden. -/
def Lives (first : Situation) (files : PerStream OpenFile) (visible : Stream → Bytes)
    (now : Situation) : Prop :=
  Shown first files visible now ∨ ∃ copy opening, Hidden first files visible copy opening now

theorem Situation.excuse_of_ok {scope : Scope}
    (hidden : (discardStream now.stream now.host).1 = .ok scope) (stream : Stream) :
    now.excuse stream = [] := by
  have made : discardStream now.stream now.host =
      (.ok scope, (discardStream now.stream now.host).2) := Prod.ext hidden rfl
  rw [excuse, made]

theorem Situation.excuse_of_error {error : OsError}
    (failed : (discardStream now.stream now.host).1 = .error error) (stream : Stream) :
    now.excuse stream =
      (discardStream now.stream now.host).2.remark (complaint now.stream error) stream := by
  have made : discardStream now.stream now.host =
      (.error error, (discardStream now.stream now.host).2) := Prod.ext failed rfl
  rw [excuse, made]

/-- Files are only opened after those that were opened before. -/
theorem Situation.openings_discardStream (now : Situation) :
    now.host.openings ≤ (discardStream now.stream now.host).2.openings := by
  have steps := Spares.discardStream (fun _ => not_false) now.stream now.host fun _ => False.elim
  exact Host.Steps.openings_le steps.1

/-- A stream that cannot be hidden stays visible, which is said in the log. -/
theorem Shown.engage_of_error (shown : Shown first files visible now)
    (beginning : Beginning first files) {error : OsError}
    (failed : (discardStream now.stream now.host).1 = .error error) :
    Shown first files (fun stream => visible stream ++ now.excuse stream)
      { now with
        suppressor := some (engage now.stream true now.host).1
        host := (engage now.stream true now.host).2 } := by
  let after := (discardStream now.stream now.host).2
  have discarded := Ensures.discardStream_since now.stream now.host.openings now.host
    ⟨shown.shows, Nat.le_refl _⟩
  rw [failed] at discarded
  have shows : after.Shows first.host.opened first.host.threads := discarded
  have utterances := Log.debug_utterances (complaint now.stream error) after
  rw [Suppressor.engage_of_error failed]
  refine shown.reached ?_ (by simp [inert]) (shows.still utterances.still)
    (Nat.le_trans now.openings_discardStream utterances.steps.openings_le) ?_
  · rintro _ ⟨⟩
    simp [Suppressor.IsSound, inert]
  · have books := shown.books.discardStream (shown.found beginning) shown.takes now.stream
    simp only [now.excuse_of_error failed]
    exact books.1.debug (fun stream => shows.files ▸ beginning.found stream)
      (fun stream takes => shows.files ▸ takes) _

/-- The files of the streams while one of them is hidden. -/
theorem Beginning.found_veiled (beginning : Beginning first files) {copy opening : Nat}
    (isFree : first.host.opened copy = none) (stream : Stream) :
    first.host.opened.veiled first.stream copy opening stream.number =
      some ((files.set first.stream (.discard opening)).get stream) := by
  by_cases same : stream = first.stream
  · rw [same, PerStream.get_set_self]
    exact OpenFiles.veiled_stream _ _ _ _
  · rw [PerStream.get_set_of_ne _ _ same]
    have used := beginning.found stream
    refine (OpenFiles.veiled_other isFree opening (by simp [used]) ?_).trans used
    exact fun equal => same (Stream.number_injective equal)

/-- A stream that can be hidden is. -/
theorem Shown.engage_of_ok (shown : Shown first files visible now)
    (beginning : Beginning first files) {scope : Scope}
    (hides : (discardStream now.stream now.host).1 = .ok scope) :
    ∃ copy opening, Hidden first files visible copy opening
      { now with
        suppressor := some (engage now.stream true now.host).1
        host := (engage now.stream true now.host).2 } := by
  let after := (discardStream now.stream now.host).2
  have discarded := Ensures.discardStream_since now.stream now.host.openings now.host
    ⟨shown.shows, Nat.le_refl _⟩
  rw [hides] at discarded
  obtain ⟨copy, file, opening, rfl, found, isFree, isNew, shows⟩ := discarded
  have veiled : after.opened = first.host.opened.veiled first.stream copy opening := by
    rw [OpenFiles.veiled, ← shown.stream, found]
    exact shows.files
  refine ⟨copy, opening, ?_⟩
  rw [Suppressor.engage_of_ok hides]
  constructor
  · exact shown.stream
  · rw [shown.stream]
    rfl
  · exact isFree
  · intro same
    have earlier := beginning.numbers first.stream.number opening
      ((beginning.found first.stream).trans (congrArg some same))
    exact Nat.lt_irrefl _ (Nat.lt_of_lt_of_le earlier (Nat.le_trans shown.later isNew))
  · exact ⟨veiled, shows.threads⟩
  · exact Nat.le_trans shown.later now.openings_discardStream
  · obtain ⟨accounts, empty⟩ :=
      shown.books.discardStream (shown.found beginning) shown.takes now.stream
    refine .begin accounts (shown.stream ▸ empty) ?_ fun stream takes => ?_
    · exact fun stream => veiled ▸ beginning.found_veiled isFree stream
    · have isOpen : first.host.opened first.stream.number ≠ none := by
        simp [beginning.found first.stream]
      rw [veiled]
      exact OpenFiles.veiled_takes isOpen isFree opening takes

/-- A stream is hidden, or it stays visible, which is said in the log. -/
theorem Shown.engage (shown : Shown first files visible now) (beginning : Beginning first files) :
    Lives first files (fun stream => visible stream ++ now.excuse stream)
      { now with
        suppressor := some (engage now.stream true now.host).1
        host := (engage now.stream true now.host).2 } := by
  cases outcome : (discardStream now.stream now.host).1 with
  | error error => exact .inl (shown.engage_of_error beginning outcome)
  | ok scope =>
      simp only [now.excuse_of_ok outcome, List.append_nil]
      exact .inr (shown.engage_of_ok beginning outcome)

/-- Deeds are orderly when they leave the life in order, and pass nothing while the stream
is hidden. -/
theorem Lives.orderly {deed : Deed} (lives : Lives first files visible deed.after)
    (beginning : Beginning first files)
    (hidden : deed.before.state = some .engaged →
      deed.after.host.passedSince deed.before.host first.stream.number
          (files.get first.stream) = [] ∧
        (deed.after.state ≠ some .engaged → deed.after.host.heldBack first.stream = [])) :
    deed.Orderly first := by
  have found := beginning.found first.stream
  constructor
  · intro idle
    rcases lives with shown | ⟨copy, opening, stillHidden⟩
    · exact shown.shows.files
    · exact absurd stillHidden.state idle
  · intro engaged
    rcases lives with shown | ⟨copy, opening, stillHidden⟩
    · exact absurd engaged shown.idle
    · refine ⟨copy, opening, stillHidden.isFree, ?_, stillHidden.shows.files⟩
      rw [found]
      exact fun same => stillHidden.different (Option.some.inj same)
  · intro engaged file same
    rw [found] at same
    cases same
    exact (hidden engaged).1
  · exact fun engaged => (hidden engaged).2

/-- A suppressor is made for a stream that is visible, unless there is one. -/
theorem Shown.lives_engage (shown : Shown first files visible now)
    (beginning : Beginning first files) (wanted : Bool) :
    Lives first files (fun stream => visible stream ++ (now.deed (.engage wanted)).written stream)
      (now.deed (.engage wanted)).after := by
  cases there : now.suppressor with
  | some suppressor =>
      have after : (now.deed (.engage wanted)).after = now :=
        Situation.deed_unchanged (by simp only [Use.perform, there]; rfl)
      have lives : Lives first files (fun stream => visible stream ++ []) now :=
        .inl shown.unwritten
      rw [after]
      simpa [Deed.written, there] using lives
  | none =>
      have made : (now.deed (.engage wanted)).after =
          { now with
            suppressor := some (Suppressor.engage now.stream wanted now.host).1
            host := (Suppressor.engage now.stream wanted now.host).2 } :=
        Situation.deed_after (by simp only [Use.perform, there]; rfl)
      rw [made]
      cases wanted with
      | true => simpa [Deed.written, there] using shown.engage beginning
      | false =>
          left
          refine shown.reached ?_ (by simp [engage_unwanted, inert]) shown.shows (Nat.le_refl _) ?_
          · rintro _ ⟨⟩
            exact isSound_engage _ _ _
          · simpa [Deed.written, engage_unwanted] using shown.books

/-- A use of a suppressor whose stream is visible. -/
theorem Shown.deed (shown : Shown first files visible now) (beginning : Beginning first files)
    (use : Use) :
    (now.deed use).Orderly first ∧
      Lives first files (fun stream => visible stream ++ (now.deed use).visible stream)
        (now.deed use).after := by
  have same (stream : Stream) : (now.deed use).visible stream = (now.deed use).written stream := by
    simp [Deed.visible, Situation.hides, shown.idle]
  have lives : Lives first files (fun stream => visible stream ++ (now.deed use).visible stream)
      (now.deed use).after := by
    simp only [same]
    cases use with
    | engage wanted => exact shown.lives_engage beginning wanted
    | restore =>
        have after : (now.deed .restore).after = now := by
          apply Situation.deed_unchanged
          cases there : now.suppressor with
          | none => rfl
          | some suppressor =>
              simp only [Use.perform, Action.bind_apply, shown.restore there]
              rfl
        rw [after]
        exact .inl shown.unwritten
    | drop =>
        have dropped : (now.deed .drop).after = { now with suppressor := none } := by
          apply Situation.deed_after
          cases there : now.suppressor with
          | none => rfl
          | some suppressor =>
              simp only [Use.perform, Action.bind_apply, Action.discard_apply, shown.restore there]
              rfl
        rw [dropped]
        exact .inl shown.dropped
    | write stream bytes => exact .inl (shown.write beginning stream bytes)
    | readers round => exact .inl (shown.playRound round)
  exact ⟨lives.orderly beginning fun engaged => absurd engaged shown.idle, lives⟩

namespace Hidden

variable {copy opening : Nat}

/-- The number of a hidden stream does not refer to its file. -/
theorem elsewhere (hidden : Hidden first files visible copy opening now) :
    now.host.opened first.stream.number ≠ some (files.get first.stream) := by
  rw [hidden.shows.files, OpenFiles.veiled_stream]
  exact fun same => hidden.different (Option.some.inj same).symm

/-- Restoring passes nothing to the file, now or later. -/
theorem restore_passes_nothing (hidden : Hidden first files visible copy opening now) :
    let restored := (Scope.restore { stream := first.stream, saved := some copy } now.host).2
    restored.passedSince now.host first.stream.number (files.get first.stream) = [] ∧
      restored.heldBack first.stream = [] := by
  have utterances := first.stream.flush_utterances now.host
  have mute := Scope.restore_mute first.stream copy now.host
  have discards : now.host.opened first.stream.number = some (.discard opening) := by
    rw [hidden.shows.files, OpenFiles.veiled_stream]
  constructor
  · rw [mute.passedSince utterances.notes.grown]
    exact utterances.passedSince_elsewhere hidden.elsewhere
  · rw [mute.heldBack]
    exact first.stream.flush_hidden discards

/-- What is written is visible unless it is written to the hidden stream. -/
theorem visible_deed (hidden : Hidden first files visible copy opening now) (use : Use)
    (stream : Stream) :
    (now.deed use).visible stream =
      if stream = first.stream then [] else (now.deed use).written stream := by
  simp [Deed.visible, Situation.hides, hidden.state, hidden.stream, eq_comm]

/-- Nothing becomes visible by a use that writes nothing. -/
theorem unwritten (hidden : Hidden first files visible copy opening now) (use : Use)
    (nothing : ∀ stream, (now.deed use).written stream = [])
    (lives : Lives first files visible (now.deed use).after) :
    Lives first files (fun stream => visible stream ++ (now.deed use).visible stream)
      (now.deed use).after := by
  simpa [hidden.visible_deed, nothing] using lives

/-- The stream of a suppressor that is restored or dropped is shown again. -/
theorem ended (hidden : Hidden first files visible copy opening now)
    (beginning : Beginning first files) {use : Use} {left : Option Suppressor}
    (after : (now.deed use).after =
      { now with
        suppressor := left
        host := (Scope.restore { stream := first.stream, saved := some copy } now.host).2 })
    (sound : ∀ suppressor, left = some suppressor → suppressor.IsSound)
    (idle : left.map Suppressor.state ≠ some .engaged)
    (nothing : ∀ stream, (now.deed use).written stream = []) :
    (now.deed use).Orderly first ∧
      Lives first files (fun stream => visible stream ++ (now.deed use).visible stream)
        (now.deed use).after := by
  have lives : Lives first files visible (now.deed use).after := by
    rw [after]
    exact .inl (hidden.restore beginning sound idle)
  refine ⟨lives.orderly beginning fun _ => ?_, hidden.unwritten use nothing lives⟩
  rw [after]
  exact ⟨hidden.restore_passes_nothing.1, fun _ => hidden.restore_passes_nothing.2⟩

/-- A use of a suppressor whose stream is hidden. -/
theorem deed (hidden : Hidden first files visible copy opening now)
    (beginning : Beginning first files) (use : Use) :
    (now.deed use).Orderly first ∧
      Lives first files (fun stream => visible stream ++ (now.deed use).visible stream)
        (now.deed use).after := by
  have there := hidden.suppressor
  cases use with
  | engage wanted =>
      have after : (now.deed (.engage wanted)).after = now :=
        Situation.deed_unchanged (by simp only [Use.perform, there]; rfl)
      have lives : Lives first files visible (now.deed (.engage wanted)).after := by
        rw [after]
        exact .inr ⟨copy, opening, hidden⟩
      refine ⟨lives.orderly beginning fun _ => ?_,
        hidden.unwritten (.engage wanted) (by simp [Deed.written, there]) lives⟩
      rw [after]
      exact ⟨Host.passedSince_self .., fun idle => absurd hidden.state idle⟩
  | restore =>
      have after : (now.deed .restore).after =
          { now with
            suppressor := some { stream := first.stream, scope := none, state := .restored }
            host := (Scope.restore { stream := first.stream, saved := some copy } now.host).2 } :=
        Situation.deed_after (by simp only [Use.perform, there]; rfl)
      refine hidden.ended beginning after ?_ (by simp) (by simp [Deed.written])
      rintro _ ⟨⟩
      simp [IsSound]
  | drop =>
      have after : (now.deed .drop).after =
          { now with
            suppressor := none
            host := (Scope.restore { stream := first.stream, saved := some copy } now.host).2 } :=
        Situation.deed_after (by simp only [Use.perform, there]; rfl)
      refine hidden.ended beginning after ?_ (by simp) (by simp [Deed.written])
      rintro _ ⟨⟩
  | write stream bytes =>
      have written := hidden.write stream bytes
      have lives : Lives first files
          (fun other => visible other ++ (now.deed (.write stream bytes)).visible other)
          (now.deed (.write stream bytes)).after := by
        simp only [hidden.visible_deed]
        exact .inr ⟨copy, opening, written⟩
      refine ⟨lives.orderly beginning fun _ => ⟨?_, fun idle => absurd written.state idle⟩, lives⟩
      exact (stream.write_utterances bytes now.host).passedSince_elsewhere hidden.elsewhere
  | readers round =>
      have played := hidden.playRound round
      have ran := Host.readersRan_playRound now.host round
      have lives := hidden.unwritten (.readers round) (by simp [Deed.written])
        (.inr ⟨copy, opening, played⟩)
      refine ⟨lives.orderly beginning fun _ => ⟨?_, fun idle => absurd played.state idle⟩, lives⟩
      exact Host.passedSince_of_not_delivered ((Host.Mute.readersRan ran).delivered first.stream) _

end Hidden

/-! ## Whole lives -/

namespace Lives

theorem deed (lives : Lives first files visible now) (beginning : Beginning first files)
    (use : Use) :
    (now.deed use).Orderly first ∧
      Lives first files (fun stream => visible stream ++ (now.deed use).visible stream)
        (now.deed use).after := by
  rcases lives with shown | ⟨copy, opening, hidden⟩
  · exact shown.deed beginning use
  · exact hidden.deed beginning use

theorem life (lives : Lives first files visible now) (beginning : Beginning first files)
    (uses : List Use) :
    (∀ deed ∈ now.life uses, deed.Orderly first) ∧
      Lives first files
        (fun stream => visible stream ++ (now.life uses).flatMap (Deed.visible stream))
        (now.ending uses) := by
  induction uses generalizing now visible with
  | nil =>
      refine ⟨List.forall_mem_nil _, ?_⟩
      simpa [Situation.life, Situation.ending] using lives
  | cons use rest ih =>
      obtain ⟨orderly, livesOn⟩ := lives.deed beginning use
      obtain ⟨allOrderly, ends⟩ := ih livesOn
      refine ⟨List.forall_mem_cons.mpr ⟨orderly, allOrderly⟩, ?_⟩
      simpa only [Situation.life, Situation.ending, List.flatMap_cons, List.append_assoc] using ends

/-- What has passed by now. -/
theorem passed (lives : Lives first files visible now) {stream : Stream}
    (takes : first.host.opened.Flows stream) :
    now.host.passedSince first.host stream.number (files.get stream) ++
        (if now.hides stream then [] else now.host.heldBack stream) =
      first.host.heldBack stream ++ visible stream := by
  have nothing : stream = .stderr → first.host.heldBack stream = [] := by
    rintro rfl
    rfl
  rcases lives with shown | ⟨copy, opening, hidden⟩
  · have idle : now.hides stream = false := by simp [Situation.hides, shown.idle]
    simpa [idle] using (shown.books.arrives stream takes).in_order nothing
  · have hides : now.hides stream = decide (stream = first.stream) := by
      simp [Situation.hides, hidden.state, hidden.stream, eq_comm]
    simpa [hides] using (hidden.books.arrives takes).in_order nothing

end Lives

/-- What a life comes to: to the file of each stream that takes what is written has passed what
was written to the stream while it was not hidden, but for what is still in the line buffer. -/
def Exact (first last : Situation) (deeds : List Deed) : Prop :=
  ∀ (stream : Stream) file, first.host.opened stream.number = some file →
    first.host.opened.Takes stream.number →
      last.host.passedSince first.host stream.number file ++
        (if last.hides stream then [] else last.host.heldBack stream) =
      first.host.heldBack stream ++ deeds.flatMap (Deed.visible stream)

/-- A suppressor hides exactly what is written to its stream while it is engaged.  Whatever
the uses are and whichever acquisitions are refused: each deed is orderly; a suppressor is
inert for ever if it is not wanted or cannot be set up, and otherwise engaged until it is
restored or dropped; and through each stream that takes what is written, all that was written
to it while it was not hidden has passed to the original target, in order, and nothing else. -/
theorem hiding_is_exact {first : Situation} (unused : first.suppressor = none)
    (isOpen : ∀ stream : Stream, first.host.opened stream.number ≠ none)
    (numbers : first.host.NumbersOpenings) (uses : List Use) :
    (∀ deed ∈ first.life uses, deed.Orderly first) ∧
      (∀ earlier wanted meanwhile, uses = earlier ++ .engage wanted :: meanwhile →
        (first.ending earlier).suppressor = none → (∀ use ∈ meanwhile, use.IsMeanwhile) →
          (first.ending uses).state =
            some (if wanted && (first.ending earlier).canHide then
              if .restore ∈ meanwhile then .restored else .engaged else .inert)) ∧
      Exact first (first.ending uses) (first.life uses) := by
  obtain ⟨files, found⟩ := OpenFiles.exists_files isOpen
  have beginning : Beginning first files := ⟨unused, found, numbers⟩
  obtain ⟨orderly, lives⟩ := Lives.life (.inl beginning.shown) beginning uses
  refine ⟨orderly, ?_, fun stream file isFile takes => ?_⟩
  · rintro earlier wanted meanwhile rfl none isMeanwhile
    rw [Situation.ending_append]
    exact Situation.state_ending_engage none wanted isMeanwhile
  · rw [found] at isFile
    cases isFile
    exact lives.passed takes

/-- A stream that is hidden twice, with half a line pending at each end; in between it cannot
be hidden. -/
def hiddenTwice : List Use :=
  [.write .stdout (Bytes.ofText "first "), .engage true,
    .write .stdout (Bytes.ofText "secret\nhalf"), .write .stderr (Bytes.ofText "warning"),
    .restore, .write .stdout (Bytes.ofText "second "), .restore, .drop, .engage true,
    .write .stdout (Bytes.ofText "third "), .drop, .engage true,
    .write .stdout (Bytes.ofText "hidden "), .drop, .write .stdout (Bytes.ofText "end\n")]

/-- Three acquisitions are granted, and the second one after these is refused. -/
theorem hiding_is_exact_twice :
    let refusals := List.replicate 4 none ++ [some (OsError.code 24)]
    let first : Situation :=
      { stream := .stdout, suppressor := none, host := { Host.start [] [] [] with refusals } }
    (first.life hiddenTwice).map (Deed.after · |>.state) =
        [none, some .engaged, some .engaged, some .engaged, some .restored, some .restored,
          some .restored, none, some .inert, some .inert, none, some .engaged, some .engaged,
          none, none] ∧
      Exact first (first.ending hiddenTwice) (first.life hiddenTwice) ∧
      (first.ending hiddenTwice).host.received =
        { stdout := Bytes.ofText "first second third end\n"
          stderr := Bytes.ofText "warning" } := by
  intro refusals first
  have isOpen (stream : Stream) : first.host.opened stream.number ≠ none := by
    cases stream <;> exact Option.some_ne_none _
  refine ⟨by decide +kernel, ?_, by decide +kernel⟩
  exact (hiding_is_exact rfl isOpen (Host.numbersOpenings_start [] [] []) hiddenTwice).2.2

end CompileDriver.Suppressor
