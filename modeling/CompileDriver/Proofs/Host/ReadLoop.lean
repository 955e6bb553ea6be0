import CompileDriver.Proofs.Host.Readers

/-!
# The loop of a reader

A reader goes on with its attempts until one of them tells it that the pipe is at its end or that
reading has failed.  Up to there it keeps every chunk, and an attempt that has to be repeated leaves
no trace, nor does the request to stop.

What is said here about a list of attempts holds of the reader threads of a process, whose moves
are such attempts (`Host.reader?_playRound`).
-/

namespace CompileDriver

namespace ReadOutcome

/-- The bytes that an attempt has brought. -/
def bytes : ReadOutcome → Bytes
  | .chunk bytes => bytes
  | _ => []

/-- Whether the attempt is simply repeated. -/
def isRetry : ReadOutcome → Bool
  | .wouldBlock | .interrupted => true
  | _ => false

/-- The result with which the loop ends here, unless it goes on. -/
def result? : ReadOutcome → Option (Except OsError Unit)
  | .endOfPipe => some (.ok ())
  | .failed error => some (.error error)
  | _ => none

end ReadOutcome

namespace Reader

/-- The result of the loop, once it has ended. -/
def result? (reader : Reader) : Option (Except OsError Unit) :=
  match reader.status with
  | .reading => none
  | .finished => some (.ok ())
  | .failed error => some (.error error)

/-- What the loop has come to: the bytes that it has read and its result. -/
def progress (reader : Reader) : Bytes × Option (Except OsError Unit) :=
  (reader.collected, reader.result?)

/-- The outcomes of attempts that are not simply repeated. -/
def essential (attempts : List (Bool × ReadOutcome)) : List ReadOutcome :=
  (attempts.map Prod.snd).filter (!·.isRetry)

variable {reader other : Reader}

theorem drain_nil (reader : Reader) : reader.drain [] = reader := rfl

theorem drain_cons (reader : Reader) (stopping : Bool) (outcome : ReadOutcome)
    (rest : List (Bool × ReadOutcome)) :
    reader.drain ((stopping, outcome) :: rest) =
      ({ reader with stopping }.receive outcome).drain rest := rfl

theorem drain_append (reader : Reader) (first rest : List (Bool × ReadOutcome)) :
    reader.drain (first ++ rest) = (reader.drain first).drain rest :=
  List.foldl_append

theorem result?_eq_none_iff : reader.result? = none ↔ reader.status = .reading := by
  unfold result?
  split <;> simp_all

/-! ## One attempt -/

/-- A loop that goes on takes what the attempt brings, and its result. -/
theorem progress_receive (reading : reader.result? = none) (outcome : ReadOutcome) :
    (reader.receive outcome).progress = (reader.collected ++ outcome.bytes, outcome.result?) := by
  rw [result?_eq_none_iff] at reading
  cases outcome <;>
    simp [receive, reading, progress, result?, ReadOutcome.bytes, ReadOutcome.result?]

/-- A loop that has ended makes no further attempts. -/
theorem receive_of_ended (ended : reader.result? ≠ none) (outcome : ReadOutcome) :
    reader.receive outcome = reader := by
  rw [ne_eq, result?_eq_none_iff] at ended
  unfold receive
  split <;> simp_all

/-- Neither the request to stop nor the pauses so far make a difference to an attempt. -/
theorem progress_receive_congr (same : reader.progress = other.progress) (outcome : ReadOutcome) :
    (reader.receive outcome).progress = (other.receive outcome).progress := by
  obtain ⟨collected, result⟩ := Prod.mk.inj same
  by_cases reading : reader.result? = none
  · rw [progress_receive reading, progress_receive (result ▸ reading), collected]
  · rw [receive_of_ended reading, receive_of_ended (result ▸ reading), same]

theorem progress_receive_of_isRetry {outcome : ReadOutcome} (retry : outcome.isRetry = true) :
    (reader.receive outcome).progress = reader.progress := by
  by_cases reading : reader.result? = none
  · rw [progress_receive reading, progress, reading]
    cases outcome <;> simp_all [ReadOutcome.isRetry, ReadOutcome.bytes, ReadOutcome.result?]
  · rw [receive_of_ended reading]

/-! ## Many attempts -/

theorem progress_drain_congr (same : reader.progress = other.progress)
    (attempts : List (Bool × ReadOutcome)) :
    (reader.drain attempts).progress = (other.drain attempts).progress := by
  induction attempts generalizing reader other with
  | nil => exact same
  | cons attempt rest ih =>
      obtain ⟨stopping, outcome⟩ := attempt
      have sameAsked : ({ reader with stopping } : Reader).progress =
          ({ other with stopping } : Reader).progress := same
      exact ih (progress_receive_congr sameAsked outcome)

/-- A loop comes to the same without the requests to stop and the repeated attempts. -/
theorem progress_drain_essential (reader : Reader) (attempts : List (Bool × ReadOutcome)) :
    (reader.drain attempts).progress =
      (reader.drain ((essential attempts).map (false, ·))).progress := by
  induction attempts generalizing reader with
  | nil => rfl
  | cons attempt rest ih =>
      obtain ⟨stopping, outcome⟩ := attempt
      rw [drain_cons, ih]
      by_cases retry : outcome.isRetry = true
      · have skipped : essential ((stopping, outcome) :: rest) = essential rest := by
          simp [essential, retry]
        have asked : ({ reader with stopping } : Reader).progress = reader.progress := rfl
        rw [skipped]
        exact progress_drain_congr ((progress_receive_of_isRetry retry).trans asked) _
      · have kept : essential ((stopping, outcome) :: rest) = outcome :: essential rest := by
          simp [essential, retry]
        have unasked : ({ reader with stopping } : Reader).progress =
            ({ reader with stopping := false } : Reader).progress := rfl
        rw [kept, List.map_cons, drain_cons]
        exact progress_drain_congr (progress_receive_congr unasked outcome) _

/-- What has the same essential outcomes makes no difference. -/
theorem progress_drain_of_essential {attempts others : List (Bool × ReadOutcome)}
    (same : essential others = essential attempts) :
    (reader.drain others).progress = (reader.drain attempts).progress := by
  rw [progress_drain_essential, same, ← progress_drain_essential]

/-- As long as no attempt ends the loop, it goes on and keeps all chunks in order. -/
theorem progress_drain (reading : reader.result? = none) {attempts : List (Bool × ReadOutcome)}
    (goesOn : ∀ attempt ∈ attempts, attempt.2.result? = none) :
    (reader.drain attempts).progress =
      (reader.collected ++ attempts.flatMap fun attempt => attempt.2.bytes, none) := by
  induction attempts generalizing reader with
  | nil => simp [drain_nil, progress, reading]
  | cons attempt rest ih =>
      obtain ⟨stopping, outcome⟩ := attempt
      obtain ⟨unended, goesOnRest⟩ := List.forall_mem_cons.mp goesOn
      have asked : ({ reader with stopping } : Reader).result? = none := reading
      obtain ⟨collected, result⟩ := Prod.mk.inj (progress_receive asked outcome)
      rw [drain_cons, ih (result.trans unended) goesOnRest, collected]
      simp

/-- A loop that has ended makes no further attempts. -/
theorem progress_drain_of_ended (ended : reader.result? ≠ none)
    (attempts : List (Bool × ReadOutcome)) :
    (reader.drain attempts).progress = reader.progress := by
  induction attempts generalizing reader with
  | nil => rfl
  | cons attempt rest ih =>
      obtain ⟨stopping, outcome⟩ := attempt
      have asked : ({ reader with stopping } : Reader).result? ≠ none := ended
      rw [drain_cons, receive_of_ended asked]
      exact ih asked

/-- A loop whose attempts go on up to the last one, which ends it. -/
structure EndsAtLast (reader : Reader) (attempts : List (Bool × ReadOutcome))
    (last : Bool × ReadOutcome) (result : Except OsError Unit) : Prop where
  /-- It has not ended before the last attempt. -/
  goesOn : ∀ early, early <+: attempts → (reader.drain early).result? = none
  returns : (reader.drain (attempts ++ [last])).result? = some result
  /-- All chunks are behind what was there before, in order. -/
  collects : (reader.drain (attempts ++ [last])).collected =
    reader.collected ++ attempts.flatMap fun attempt => attempt.2.bytes
  /-- Nothing is read after the last attempt. -/
  stops : ∀ more,
    (reader.drain (attempts ++ last :: more)).progress =
      (reader.drain (attempts ++ [last])).progress
  /-- Attempts that are repeated and requests to stop make no difference, wherever they come. -/
  insensitive : ∀ others, essential others = essential (attempts ++ [last]) →
    (reader.drain others).progress = (reader.drain (attempts ++ [last])).progress

/-- The loop of a reader ignores interruptions.  Whatever has been read before, and whatever the
attempts bring before one ends the loop, it ends there with the result of that attempt and has
kept every chunk; it comes to the same with other repeated attempts and other requests to stop. -/
theorem read_loop_ignores_interruptions (reading : reader.status = .reading)
    (attempts : List (Bool × ReadOutcome))
    (goesOn : ∀ attempt ∈ attempts, attempt.2.result? = none) (stopping : Bool)
    (last : ReadOutcome) (result : Except OsError Unit) (ends : last.result? = some result) :
    EndsAtLast reader attempts (stopping, last) result := by
  have unended := result?_eq_none_iff.mpr reading
  obtain ⟨collected, going⟩ := Prod.mk.inj (progress_drain unended goesOn)
  have asked : ({ reader.drain attempts with stopping } : Reader).result? = none := going
  obtain ⟨gathered, returned⟩ := Prod.mk.inj (progress_receive asked last)
  have whole : reader.drain (attempts ++ [(stopping, last)]) =
      ({ reader.drain attempts with stopping } : Reader).receive last :=
    drain_append reader attempts [(stopping, last)]
  have returns : (reader.drain (attempts ++ [(stopping, last)])).result? = some result := by
    rw [whole, returned, ends]
  have empty : last.bytes = [] := by
    cases last <;> simp_all [ReadOutcome.bytes, ReadOutcome.result?]
  exact
    { goesOn := by
        intro early isFront
        have goesOnEarly : ∀ attempt ∈ early, attempt.2.result? = none :=
          fun attempt member => goesOn attempt (isFront.subset member)
        exact (Prod.mk.inj (progress_drain unended goesOnEarly)).2
      returns
      collects := by
        rw [whole, gathered, collected, empty, List.append_nil]
      stops := by
        intro more
        rw [List.append_cons, drain_append]
        exact progress_drain_of_ended (by rw [returns]; exact Option.some_ne_none _) more
      insensitive := fun others same => progress_drain_of_essential same }

/-- A reader that has read something before. -/
def resumedReader : Reader :=
  { thread := 0, source := 3, collected := [1] }

/-- The pipe is empty twice and a signal comes, while two chunks are read. -/
def interruptedAttempts : List (Bool × ReadOutcome) :=
  [(false, .wouldBlock), (false, .chunk [2, 3]), (false, .interrupted), (true, .wouldBlock),
    (true, .chunk [4])]

/-- Reading fails after that, with both chunks behind what was there before. -/
theorem read_loop_ignores_interruptions_failing_pipe :
    resumedReader.status = .reading ∧
    (∀ attempt ∈ interruptedAttempts, attempt.2.result? = none) ∧
    (ReadOutcome.failed (.code 5)).result? = some (.error (.code 5)) ∧
    EndsAtLast resumedReader interruptedAttempts (true, .failed (.code 5)) (.error (.code 5)) ∧
    (resumedReader.drain (interruptedAttempts ++ [(true, .failed (.code 5))])).collected =
      [1, 2, 3, 4] := by
  have goesOn : ∀ attempt ∈ interruptedAttempts, attempt.2.result? = none := by
    decide
  exact ⟨rfl, goesOn, rfl, read_loop_ignores_interruptions rfl _ goesOn true _ _ rfl, rfl⟩

end Reader

namespace Host

/-! ## Reader threads -/

/-- The attempt that a thread makes in a move of some thread, with the request to stop as it is
then. -/
def attemptIn (host : Host) (thread : Nat) (step : Nat × ReaderMove) :
    Option (Bool × ReadOutcome) :=
  if thread = step.1 then
    (host.reader? thread).bind fun reader =>
      if reader.status = .reading then
        some (reader.stopping, (host.moveOutcome reader.source step.2).1)
      else none
  else none

/-- The attempts that a thread makes while a round is played. -/
def attemptsIn (host : Host) (thread : Nat) : Round → List (Bool × ReadOutcome)
  | [] => []
  | step :: rest =>
      (host.attemptIn thread step).toList ++ (host.move step.1 step.2).attemptsIn thread rest

/-- A move takes a thread through its loop with the attempt that it makes, if any. -/
theorem reader?_move (host : Host) (thread : Nat) (step : Nat × ReaderMove) :
    (host.move step.1 step.2).reader? thread =
      (host.reader? thread).map fun reader => reader.drain (host.attemptIn thread step).toList := by
  obtain ⟨mover, move⟩ := step
  unfold attemptIn
  cases found : host.reader? mover with
  | none =>
      rw [move_of_unknown found]
      by_cases same : thread = mover
      · rw [same, found]
        rfl
      · simp [same, Reader.drain_nil]
  | some reader =>
      have named := (reader?_eq_some found).2
      by_cases reading : reader.status = .reading
      · rw [move_of_reading found reading, reader?_setReader, Reader.thread_receive, named,
          reader?_moveOutcome]
        by_cases same : thread = mover
        · subst same
          rw [found, if_pos rfl, if_pos rfl, Option.bind_some, if_pos reading]
          rfl
        · simp [same, Reader.drain_nil]
      · rw [move_of_not_reading found reading, reader?_setReader, named]
        by_cases same : thread = mover
        · subst same
          rw [found, if_pos rfl, if_pos rfl, Option.bind_some, if_neg reading]
          rfl
        · simp [same, Reader.drain_nil]

/-- While a round is played, a thread goes through its loop with the attempts that it makes. -/
theorem reader?_playRound (host : Host) (thread : Nat) (round : Round) :
    (host.playRound round).reader? thread =
      (host.reader? thread).map fun reader => reader.drain (host.attemptsIn thread round) := by
  unfold playRound
  induction round generalizing host with
  | nil => simp [attemptsIn, Reader.drain_nil]
  | cons step rest ih =>
      rw [List.foldl_cons, ih, attemptsIn]
      dsimp only
      rw [reader?_move, Option.map_map]
      simp only [Function.comp_def, Reader.drain_append]

end Host

end CompileDriver
