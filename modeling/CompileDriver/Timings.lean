import CompileDriver.Duration

/-!
# Phase timings

How long each named phase took, in the order in which the phases were first
recorded.  Repeated phases add up in the place of their first record.
-/

namespace CompileDriver

/-- The time of each recorded phase, in the order of their first record. -/
structure Timings where
  phases : List (String × Duration) := []

namespace Timings

/-- A sum of durations that does not fit. -/
inductive Overflow
  /-- The accumulated time of one phase. -/
  | phase
  /-- The time of all phases together. -/
  | total
  deriving Repr, DecidableEq

/-- The text of an overflow. -/
def Overflow.message : Overflow → String
  | .phase => "overflow when adding durations"
  | .total => "overflow in iter::sum over durations"

/-- Add `time` to the phase `name` of a list of phases, at its end when the
phase is new. -/
def addTo (name : String) (time : Duration) :
    List (String × Duration) → Option (List (String × Duration))
  | [] => some [(name, time)]
  | (other, spent) :: rest =>
      if other = name then (spent.add? time).map fun sum => (other, sum) :: rest
      else (addTo name time rest).map ((other, spent) :: ·)

/-- Record that the phase `name` took `time`. -/
def record (timings : Timings) (name : String) (time : Duration) : Except Overflow Timings :=
  match addTo name time timings.phases with
  | some phases => .ok { phases }
  | none => .error .phase

/-- The recorded phases, in the order of their first record. -/
def names (timings : Timings) : List String :=
  timings.phases.map Prod.fst

/-- The time of all phases together. -/
def total (timings : Timings) : Except Overflow Duration :=
  match Duration.sum? (timings.phases.map Prod.snd) with
  | some sum => .ok sum
  | none => .error .total

end Timings

end CompileDriver
