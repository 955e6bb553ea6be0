import CompileDriver.Timings
import Mathlib.Algebra.BigOperators.Group.List.Basic
import Mathlib.Algebra.GroupWithZero.Nat
import Mathlib.Data.List.Induction

/-!
# Accumulated times

Durations add up in nanoseconds: a sum is the exact one, and it fails exactly when that is longer
than the largest duration.  Recorded times therefore add up phase by phase until the time of one
phase does not fit.  The time of all phases together may not fit even though each of them does; it
does not depend on the order of the records.
-/

namespace CompileDriver

/-! ## Sums of durations -/

namespace Duration

/-- The longest span. -/
def largest : Duration :=
  ⟨secondBound - 1, nanosPerSecond - 1, by decide, by decide⟩

theorem total_injective : Function.Injective total := by
  rintro ⟨seconds, nanos, _, nanos_lt⟩ ⟨otherSeconds, otherNanos, _, otherNanos_lt⟩ same
  simp only [total, nanosPerSecond] at same nanos_lt otherNanos_lt
  obtain rfl : seconds = otherSeconds := by omega
  obtain rfl : nanos = otherNanos := by omega
  rfl

theorem total_largest : largest.total = secondBound * nanosPerSecond - 1 := by
  decide

theorem total_le_largest (span : Duration) : span.total ≤ largest.total := by
  obtain ⟨seconds, nanos, seconds_lt, nanos_lt⟩ := span
  rw [total_largest]
  simp only [total, secondBound, nanosPerSecond] at seconds_lt nanos_lt ⊢
  omega

theorem ofTotal?_eq_some_iff {nanos : Nat} {span : Duration} :
    ofTotal? nanos = some span ↔ span.total = nanos := by
  unfold ofTotal?
  constructor
  · intro made
    split at made
    · cases made
      exact Nat.div_add_mod' nanos nanosPerSecond
    · cases made
  · rintro rfl
    have seconds : span.total / nanosPerSecond = span.seconds := by
      have := span.nanos_lt
      simp only [total, nanosPerSecond] at *
      omega
    rw [dif_pos (seconds ▸ span.seconds_lt), Option.some.injEq]
    exact total_injective (Nat.div_add_mod' span.total nanosPerSecond)

theorem ofTotal?_eq_none_iff {nanos : Nat} : ofTotal? nanos = none ↔ largest.total < nanos := by
  rw [← Nat.not_le, ← not_iff_not, not_not, ← ne_eq, Option.ne_none_iff_exists']
  constructor
  · rintro ⟨span, made⟩
    rw [← ofTotal?_eq_some_iff.mp made]
    exact span.total_le_largest
  · intro fits
    have short : nanos / nanosPerSecond < secondBound := by
      simp only [total_largest, secondBound, nanosPerSecond] at fits ⊢
      omega
    exact ⟨_, dif_pos short⟩

theorem foldlM_add? (spans : List Duration) (start : Duration) :
    spans.foldlM add? start = ofTotal? (start.total + (spans.map total).sum) := by
  induction spans generalizing start with
  | nil =>
      symm
      simp [ofTotal?_eq_some_iff]
  | cons span rest ih =>
      rw [List.foldlM_cons, List.map_cons, List.sum_cons, ← Nat.add_assoc]
      cases added : add? start span with
      | none =>
          have exceeds := ofTotal?_eq_none_iff.mp added
          exact (ofTotal?_eq_none_iff.mpr (Nat.lt_add_right _ exceeds)).symm
      | some next =>
          rw [← ofTotal?_eq_some_iff.mp added]
          exact ih next

/-- Spans are added up exactly. -/
theorem sum?_eq (spans : List Duration) : sum? spans = ofTotal? (spans.map total).sum := by
  rw [sum?, foldlM_add?]
  exact congrArg ofTotal? (Nat.zero_add _)

end Duration

namespace Timings

open Duration (largest)

/-! ## The time spent on names -/

/-- The time, in nanoseconds, that the records with some names tell of. -/
def spent (names : String → Bool) (records : List (String × Duration)) : Nat :=
  ((records.filter fun record => names record.1).map fun record => record.2.total).sum

section

variable {names : String → Bool}

theorem spent_append (first second : List (String × Duration)) :
    spent names (first ++ second) = spent names first + spent names second := by
  simp [spent]

theorem spent_cons (record : String × Duration) (rest : List (String × Duration)) :
    spent names (record :: rest) =
      (if names record.1 then record.2.total else 0) + spent names rest := by
  by_cases counted : names record.1 <;> simp [spent, counted]

theorem spent_perm {records permuted : List (String × Duration)} (perm : records.Perm permuted) :
    spent names permuted = spent names records :=
  ((perm.filter _).map _).sum_eq.symm

theorem spent_eq_zero {name : String} {records : List (String × Duration)}
    (absent : name ∉ records.map Prod.fst) : spent (· = name) records = 0 := by
  induction records with
  | nil => rfl
  | cons record rest ih =>
      rw [List.map_cons, List.mem_cons, not_or] at absent
      rw [spent_cons, ih absent.2]
      simp [Ne.symm absent.1]

/-- When no name comes twice, what was spent on a name is what its entry tells. -/
theorem spent_of_mem {name : String} {time : Duration} {phases : List (String × Duration)}
    (once : (phases.map Prod.fst).Nodup) (member : (name, time) ∈ phases) :
    spent (· = name) phases = time.total := by
  induction phases with
  | nil => cases member
  | cons phase rest ih =>
      obtain ⟨absent, onceRest⟩ := List.nodup_cons.mp once
      rw [spent_cons]
      rcases List.mem_cons.mp member with rfl | later
      · simp [spent_eq_zero absent]
      · have other : phase.1 ≠ name := fun same => absent (same ▸ List.mem_map.mpr ⟨_, later, rfl⟩)
        simp [other, ih onceRest later]

end

/-! ## One record -/

section

variable {name : String} {time : Duration} {phases later : List (String × Duration)}

/-- A sum can only overflow in a phase that is there. -/
theorem mem_of_addTo_eq_none (overflows : addTo name time phases = none) :
    name ∈ phases.map Prod.fst := by
  induction phases with
  | nil => cases overflows
  | cons phase rest ih =>
      rw [addTo] at overflows
      by_cases same : phase.1 = name
      · exact List.mem_map.mpr ⟨phase, List.mem_cons_self, same⟩
      · rw [if_neg same, Option.map_eq_none_iff] at overflows
        exact List.mem_cons_of_mem _ (ih overflows)

theorem names_of_addTo (added : addTo name time phases = some later) :
    later.map Prod.fst =
      if name ∈ phases.map Prod.fst then phases.map Prod.fst
      else phases.map Prod.fst ++ [name] := by
  induction phases generalizing later with
  | nil =>
      cases added
      simp
  | cons phase rest ih =>
      rw [addTo] at added
      by_cases same : phase.1 = name
      · rw [if_pos same] at added
        obtain ⟨sum, -, rfl⟩ := Option.map_eq_some_iff.mp added
        simp [same]
      · rw [if_neg same] at added
        obtain ⟨rest, addedRest, rfl⟩ := Option.map_eq_some_iff.mp added
        simp only [List.map_cons, ih addedRest, List.mem_cons, Ne.symm same, false_or]
        split <;> rfl

/-- An added time counts like a further record. -/
theorem spent_of_addTo (names : String → Bool) (added : addTo name time phases = some later) :
    spent names later = spent names (phases ++ [(name, time)]) := by
  induction phases generalizing later with
  | nil =>
      cases added
      rfl
  | cons phase rest ih =>
      rw [addTo] at added
      rw [List.cons_append, spent_cons]
      by_cases same : phase.1 = name
      · rw [if_pos same] at added
        obtain ⟨sum, summed, rfl⟩ := Option.map_eq_some_iff.mp added
        rw [spent_cons, spent_append, spent_cons, Duration.ofTotal?_eq_some_iff.mp summed, same]
        split
        · simp [spent]
          omega
        · simp [spent]
      · rw [if_neg same] at added
        obtain ⟨rest, addedRest, rfl⟩ := Option.map_eq_some_iff.mp added
        rw [spent_cons, ih addedRest]

/-- A time cannot be added exactly when the time of its phase would be too long. -/
theorem addTo_eq_none_iff (once : (phases.map Prod.fst).Nodup) :
    addTo name time phases = none ↔
      largest.total < spent (· = name) (phases ++ [(name, time)]) := by
  induction phases with
  | nil => simpa [addTo, spent] using time.total_le_largest
  | cons phase rest ih =>
      obtain ⟨absent, onceRest⟩ := List.nodup_cons.mp once
      rw [addTo, List.cons_append, spent_cons]
      by_cases same : phase.1 = name
      · subst same
        rw [if_pos rfl, Option.map_eq_none_iff, Duration.add?, Duration.ofTotal?_eq_none_iff,
          spent_append, spent_eq_zero absent]
        simp [spent]
      · rw [if_neg same, Option.map_eq_none_iff, ih onceRest]
        simp [same]

end

/-! ## Many records -/

/-- Record the times of phases one after the other, up to the first one that does not fit. -/
def recordAll (records : List (String × Duration)) : Except Overflow Timings :=
  records.foldlM (fun timings record => timings.record record.1 record.2) {}

/-- The time of every phase fits into a duration. -/
def Fits (records : List (String × Duration)) : Prop :=
  ∀ name, spent (· = name) records ≤ largest.total

/-- The names of some records, each of them once, in the order of their first records. -/
structure ListsFirsts (recorded names : List String) : Prop where
  mem_iff : ∀ name, name ∈ names ↔ name ∈ recorded
  once : names.Nodup
  inOrder : names.Pairwise fun earlier later => recorded.idxOf earlier < recorded.idxOf later

/-- What timings tell of the records that they come from. -/
structure Tells (records : List (String × Duration)) (timings : Timings) : Prop where
  names : ListsFirsts (records.map Prod.fst) timings.names
  /-- The time of a phase is that of all its records. -/
  times : ∀ phase ∈ timings.phases, phase.2.total = spent (· = phase.1) records
  /-- The time of all phases is that of all records. -/
  total : ∀ sum, timings.total = .ok sum ↔ sum.total = spent (fun _ => true) records
  /-- It fails when that is too long. -/
  overflows : timings.total = .error .total ↔ largest.total < spent (fun _ => true) records

/-- Records are refused from the first time on that does not fit: those before it are made. -/
def StopsAtExcess (records : List (String × Duration)) : Prop :=
  ∃ earlier name time later timings, records = earlier ++ (name, time) :: later ∧
    Fits earlier ∧ recordAll earlier = .ok timings ∧
    largest.total < spent (· = name) (earlier ++ [(name, time)]) ∧
    timings.record name time = .error .phase ∧ recordAll records = .error .phase

/-- Some records are accumulated exactly. -/
structure Accumulates (records : List (String × Duration)) : Prop where
  exact : Fits records → ∃ timings, recordAll records = .ok timings ∧ Tells records timings
  stops : ¬ Fits records → StopsAtExcess records
  /-- The order of the records makes no difference to the time of all phases. -/
  permuted : ∀ permuted, records.Perm permuted →
    (recordAll permuted).bind Timings.total = (recordAll records).bind Timings.total

/-- A further record is of a name that is listed already, or its name comes last. -/
theorem ListsFirsts.further {recorded names : List String} (lists : ListsFirsts recorded names)
    (name : String) :
    ListsFirsts (recorded ++ [name]) (if name ∈ names then names else names ++ [name]) := by
  have before : names.Pairwise fun earlier later =>
      (recorded ++ [name]).idxOf earlier < (recorded ++ [name]).idxOf later := by
    refine lists.inOrder.imp_of_mem fun {earlier later} present presentLater inOrder => ?_
    rwa [List.idxOf_append_of_mem ((lists.mem_iff earlier).mp present),
      List.idxOf_append_of_mem ((lists.mem_iff later).mp presentLater)]
  split
  · rename_i present
    refine ⟨fun other => ?_, lists.once, before⟩
    rw [lists.mem_iff, List.mem_append, List.mem_singleton]
    refine ⟨.inl, ?_⟩
    rintro (known | rfl)
    · exact known
    · exact (lists.mem_iff _).mp present
  · rename_i absent
    have unrecorded : name ∉ recorded := fun known => absent ((lists.mem_iff name).mpr known)
    refine ⟨fun other => ?_, ?_, ?_⟩
    · simp only [List.mem_append, lists.mem_iff]
    · simpa [List.nodup_append, lists.once] using
        fun other present => ne_of_mem_of_not_mem present absent
    · refine List.pairwise_append.mpr ⟨before, List.pairwise_singleton _ _, ?_⟩
      intro earlier present last isName
      obtain rfl := List.mem_singleton.mp isName
      have known := (lists.mem_iff earlier).mp present
      rw [List.idxOf_append_of_mem known, List.idxOf_append_of_notMem unrecorded]
      exact Nat.lt_add_right _ (List.idxOf_lt_length_of_mem known)

/-- What every record keeps: the names and the time spent on any of them are those of the
records so far. -/
structure Keeps (records : List (String × Duration)) (timings : Timings) : Prop where
  names : ListsFirsts (records.map Prod.fst) timings.names
  times : ∀ names, spent names timings.phases = spent names records

section

variable {records : List (String × Duration)} {timings : Timings}

/-- The time of all phases is that of their entries together. -/
theorem total_eq (timings : Timings) :
    timings.total =
      match Duration.ofTotal? (spent (fun _ => true) timings.phases) with
      | some sum => .ok sum
      | none => .error .total := by
  have all : spent (fun _ => true) timings.phases =
      ((timings.phases.map Prod.snd).map Duration.total).sum := by
    simp [spent, Function.comp_def]
  rw [all, ← Duration.sum?_eq]
  rfl

theorem Keeps.tells (keeps : Keeps records timings) : Tells records timings where
  names := keeps.names
  times := by
    intro phase member
    rw [← keeps.times, spent_of_mem keeps.names.once member]
  total := by
    intro sum
    rw [total_eq, ← keeps.times, ← Duration.ofTotal?_eq_some_iff]
    split <;> simp_all
  overflows := by
    rw [total_eq, ← keeps.times, ← Duration.ofTotal?_eq_none_iff]
    split <;> simp_all

/-- One more record either is made, or its phase would take too long. -/
theorem Keeps.further (keeps : Keeps records timings) (name : String) (time : Duration) :
    (spent (· = name) (records ++ [(name, time)]) ≤ largest.total ∧
        ∃ later, timings.record name time = .ok later ∧ Keeps (records ++ [(name, time)]) later) ∨
      largest.total < spent (· = name) (records ++ [(name, time)]) ∧
        timings.record name time = .error .phase := by
  have same (names : String → Bool) : spent names (timings.phases ++ [(name, time)]) =
      spent names (records ++ [(name, time)]) := by
    rw [spent_append, spent_append, keeps.times]
  have refused : addTo name time timings.phases = none ↔ _ := addTo_eq_none_iff keeps.names.once
  rw [same] at refused
  unfold record
  cases added : addTo name time timings.phases with
  | none => exact .inr ⟨refused.mp added, rfl⟩
  | some phases =>
      have fits : ¬ largest.total < spent (· = name) (records ++ [(name, time)]) := by
        rw [← refused, added]
        simp
      refine .inl ⟨Nat.le_of_not_lt fits, _, rfl, ?_, fun names => ?_⟩
      · have listed := keeps.names.further name
        rw [Timings.names, ← names_of_addTo added] at listed
        rw [List.map_append]
        exact listed
      · exact (spent_of_addTo names added).trans (same names)

theorem Fits.of_append {later : List (String × Duration)} (fits : Fits (records ++ later)) :
    Fits records := by
  intro name
  have whole := fits name
  rw [spent_append] at whole
  omega

/-- Only the phase of a further record takes longer. -/
theorem Fits.further {name : String} {time : Duration} (fits : Fits records)
    (fitsName : spent (· = name) (records ++ [(name, time)]) ≤ largest.total) :
    Fits (records ++ [(name, time)]) := by
  intro other
  by_cases same : name = other
  · exact same ▸ fitsName
  · have known := fits other
    rw [spent_append]
    simpa [spent, same] using known

theorem Fits.perm {permuted : List (String × Duration)} (perm : records.Perm permuted) :
    Fits permuted ↔ Fits records := by
  simp only [Fits, spent_perm perm]

theorem StopsAtExcess.not_fits (stops : StopsAtExcess records) : ¬ Fits records := by
  obtain ⟨earlier, name, time, later, timings, rfl, -, -, exceeds, -⟩ := stops
  rw [List.append_cons]
  exact fun fits => Nat.not_le_of_lt exceeds (fits.of_append name)

theorem StopsAtExcess.recordAll_eq (stops : StopsAtExcess records) :
    recordAll records = .error .phase := by
  obtain ⟨-, -, -, -, -, -, -, -, -, -, stopped⟩ := stops
  exact stopped

theorem recordAll_append (records later : List (String × Duration)) :
    recordAll (records ++ later) =
      (recordAll records).bind fun timings =>
        later.foldlM (fun timings record => timings.record record.1 record.2) timings :=
  List.foldlM_append

/-- Either all records fit, or they are refused from the first one on that does not. -/
theorem recordAll_cases (records : List (String × Duration)) :
    (Fits records ∧ ∃ timings, recordAll records = .ok timings ∧ Keeps records timings) ∨
      StopsAtExcess records := by
  induction records using List.reverseRecOn with
  | nil =>
      refine .inl ⟨fun _ => Nat.zero_le _, {}, rfl, ⟨?_, .nil, .nil⟩, fun _ => rfl⟩
      exact fun _ => Iff.rfl
  | append_singleton records record ih =>
      obtain ⟨name, time⟩ := record
      rcases ih with ⟨fits, timings, made, keeps⟩ | stops
      · rcases keeps.further name time with ⟨fitsName, later, recorded, kept⟩ | ⟨exceeds, refused⟩
        · refine .inl ⟨fits.further fitsName, later, ?_, kept⟩
          rw [recordAll_append, made]
          simpa [Except.bind] using recorded
        · refine .inr ⟨records, name, time, [], timings, rfl, fits, made, exceeds, refused, ?_⟩
          rw [recordAll_append, made]
          simpa [Except.bind] using refused
      · have stopped := stops.recordAll_eq
        obtain ⟨earlier, first, excess, later, timings, rfl, fits, made, exceeds, refused, -⟩ :=
          stops
        refine .inr ⟨earlier, first, excess, later ++ [(name, time)], timings, by simp, fits, made,
          exceeds, refused, ?_⟩
        rw [recordAll_append, stopped]
        rfl

end

/-- Times accumulate exactly.  Whatever is recorded, the phases are listed by their first records
with the exact times of all their records, up to the first record that makes the time of its phase
too long; and the time of all phases together is that of all records, in whatever order these were
made, and fails only when it is too long itself. -/
theorem times_accumulate_exactly (records : List (String × Duration)) : Accumulates records where
  exact := by
    intro fits
    rcases recordAll_cases records with ⟨-, timings, made, keeps⟩ | stops
    · exact ⟨timings, made, keeps.tells⟩
    · exact absurd fits stops.not_fits
  stops := by
    intro exceeds
    rcases recordAll_cases records with ⟨fits, -⟩ | stops
    · exact absurd fits exceeds
    · exact stops
  permuted := by
    intro permuted perm
    rcases recordAll_cases records with ⟨fits, timings, made, keeps⟩ | stops
    · rcases recordAll_cases permuted with ⟨-, timingsTwin, madeTwin, keepsTwin⟩ | stopsTwin
      · rw [made, madeTwin]
        change timingsTwin.total = timings.total
        rw [total_eq, total_eq, keeps.times, keepsTwin.times, spent_perm perm]
      · exact absurd ((Fits.perm perm).mpr fits) stopsTwin.not_fits
    · rcases recordAll_cases permuted with ⟨fitsTwin, -⟩ | stopsTwin
      · exact absurd ((Fits.perm perm).mp fitsTwin) stops.not_fits
      · rw [stops.recordAll_eq, stopsTwin.recordAll_eq]

/-- Two phases that fit may be too long together. -/
example :
    ((recordAll [("run", largest), ("parse", largest), ("run", .zero)]).toOption.map names) =
        some ["run", "parse"] ∧
      ((recordAll [("run", largest), ("parse", largest), ("run", .zero)]).bind
        Timings.total) = .error .total := by
  decide +kernel

end Timings

end CompileDriver
