import CompileDriver.Text.WordTable

/-!
# The characters of words

Whether a character belongs to a word, read off the table of ranges.
-/

namespace CompileDriver.Text

/-- Whether one of the ranges, which are in ascending order, covers `n`.  The
search ends at the first range that begins above `n`. -/
def coveredBy : List (Nat × Nat) → Nat → Bool
  | [], _ => false
  | (first, last) :: rest, n =>
      if n < first then false
      else if n ≤ last then true
      else coveredBy rest n

/-- Whether `c` belongs to a word. -/
def isWordChar (c : Char) : Bool :=
  coveredBy wordRanges c.toNat

end CompileDriver.Text
