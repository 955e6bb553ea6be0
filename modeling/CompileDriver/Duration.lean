import CompileDriver.Text.Decimal

/-!
# Durations

A duration is a number of whole seconds below 2^64 and a number of nanoseconds
below one second.  Sums carry from the nanoseconds to the seconds and fail when
the seconds no longer fit.  The text of a duration uses the largest unit that
makes the number at least one, without trailing zeros.
-/

namespace CompileDriver

/-- How many seconds a duration stays below: 2^64. -/
def secondBound : Nat := 18446744073709551616

/-- How many nanoseconds make a second. -/
def nanosPerSecond : Nat := 1000000000

/-- A span of time. -/
structure Duration where
  seconds : Nat
  nanos : Nat
  seconds_lt : seconds < secondBound
  nanos_lt : nanos < nanosPerSecond
  deriving DecidableEq

namespace Duration

/-- No time at all. -/
def zero : Duration :=
  ⟨0, 0, by decide, by decide⟩

/-- The span in nanoseconds. -/
def total (span : Duration) : Nat :=
  span.seconds * nanosPerSecond + span.nanos

/-- The span of so many nanoseconds, unless it is too long. -/
def ofTotal? (total : Nat) : Option Duration :=
  if h : total / nanosPerSecond < secondBound then
    some ⟨total / nanosPerSecond, total % nanosPerSecond, h, Nat.mod_lt _ (by decide)⟩
  else
    none

/-- So many seconds and nanoseconds, unless that is too long. -/
def of? (seconds nanos : Nat) : Option Duration :=
  ofTotal? (seconds * nanosPerSecond + nanos)

/-- The sum of two spans, unless it is too long. -/
def add? (first second : Duration) : Option Duration :=
  ofTotal? (first.total + second.total)

/-- The sum of spans from the left, unless a partial sum is too long. -/
def sum? (spans : List Duration) : Option Duration :=
  spans.foldlM add? zero

/-- A whole number with `places` further digits, whose trailing zeros are left
out, together with the point when nothing remains. -/
def withFraction (whole fraction places : Nat) : String :=
  let digits := (Decimal.zeroPadded places fraction).toList.reverse.dropWhile (· = '0')
  if digits = [] then toString whole
  else toString whole ++ "." ++ String.ofList digits.reverse

/-- The text of a span: seconds, else milliseconds, microseconds or
nanoseconds. -/
def text (span : Duration) : String :=
  if 0 < span.seconds then withFraction span.seconds span.nanos 9 ++ "s"
  else if 1000000 ≤ span.nanos then
    withFraction (span.nanos / 1000000) (span.nanos % 1000000) 6 ++ "ms"
  else if 1000 ≤ span.nanos then
    withFraction (span.nanos / 1000) (span.nanos % 1000) 3 ++ "µs"
  else toString span.nanos ++ "ns"

end Duration

end CompileDriver
