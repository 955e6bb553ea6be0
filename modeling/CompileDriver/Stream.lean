import CompileDriver.Bytes

/-!
# The two standard streams

A process writes its results to one standard stream and its diagnostics to the
other.  `PerStream` holds one value for each of them.
-/

namespace CompileDriver

/-- One of the two standard output streams of a process. -/
inductive Stream
  | stdout
  | stderr
  deriving Repr, DecidableEq

namespace Stream

/-- The name of a stream. -/
def name : Stream → String
  | .stdout => "stdout"
  | .stderr => "stderr"

/-- The descriptor number of a stream. -/
def number : Stream → Nat
  | .stdout => 1
  | .stderr => 2

/-- The two streams have different numbers. -/
theorem number_injective {s t : Stream} (h : s.number = t.number) : s = t := by
  cases s <;> cases t <;> simp_all [number]

end Stream

/-- One value for each standard stream. -/
structure PerStream (α : Type) where
  stdout : α
  stderr : α
  deriving Repr, DecidableEq

namespace PerStream

variable {α β : Type}

/-- The value of a stream. -/
def get (pair : PerStream α) : Stream → α
  | .stdout => pair.stdout
  | .stderr => pair.stderr

/-- Replace the value of a stream. -/
def set (pair : PerStream α) (stream : Stream) (value : α) : PerStream α :=
  match stream with
  | .stdout => { pair with stdout := value }
  | .stderr => { pair with stderr := value }

/-- Change the value of a stream. -/
def modify (pair : PerStream α) (stream : Stream) (change : α → α) : PerStream α :=
  pair.set stream (change (pair.get stream))

/-- Change both values alike. -/
def map (change : α → β) (pair : PerStream α) : PerStream β :=
  { stdout := change pair.stdout, stderr := change pair.stderr }

@[simp]
theorem get_set_self (pair : PerStream α) (s : Stream) (value : α) :
    (pair.set s value).get s = value := by
  cases s <;> rfl

/-- Replacing the value of one stream leaves the other one alone. -/
theorem get_set_of_ne (pair : PerStream α) {s t : Stream} (value : α) (h : t ≠ s) :
    (pair.set s value).get t = pair.get t := by
  cases s <;> cases t <;> simp_all [get, set]

theorem get_map (change : α → β) (pair : PerStream α) (s : Stream) :
    (pair.map change).get s = change (pair.get s) := by
  cases s <;> rfl

end PerStream

end CompileDriver
