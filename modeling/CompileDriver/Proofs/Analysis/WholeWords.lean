import CompileDriver.Analysis.Basic
import Mathlib.Data.List.Pairwise
import Mathlib.Order.Defs.PartialOrder

/-!
# Names as whole words

The analysis finds a secure type where its name stands as a whole word, wherever that is in the
text and whatever else is there.  `Stands` says what this means without a scan: the text splits
around the name, with no character of words next to it.

The characters of words are those in the ranges of the table.  The search in the table may end
early because its ranges are in ascending order.
-/

namespace CompileDriver

namespace Text

/-- A character of words: one of the ranges of the table covers it. -/
def IsOfWords (c : Char) : Prop :=
  ∃ range ∈ wordRanges, range.1 ≤ c.toNat ∧ c.toNat ≤ range.2

/-- In ranges that are in ascending order the search finds every number that one of them
covers. -/
theorem coveredBy_iff {ranges : List (Nat × Nat)}
    (ascending : ranges.Pairwise fun earlier later => earlier.1 < later.1) (n : Nat) :
    coveredBy ranges n = true ↔ ∃ range ∈ ranges, range.1 ≤ n ∧ n ≤ range.2 := by
  induction ranges with
  | nil => simp [coveredBy]
  | cons range rest ih =>
      obtain ⟨above, ascendingRest⟩ := List.pairwise_cons.mp ascending
      rw [coveredBy]
      split
      · rename_i below
        -- all later ranges begin above `n` too
        simp only [Bool.false_eq_true, List.mem_cons, false_iff]
        rintro ⟨other, rfl | later, first, -⟩
        · exact absurd first (Nat.not_le_of_lt below)
        · exact absurd first (Nat.not_le_of_lt (Nat.lt_trans below (above other later)))
      · rename_i notBelow
        split
        · rename_i inside
          simp [Nat.le_of_not_lt notBelow, inside]
        · rename_i outside
          simp [ih ascendingRest, outside]

theorem wordRanges_ascending :
    wordRanges.Pairwise fun earlier later => earlier.1 < later.1 := by
  have chain : wordRanges.IsChain fun earlier later => earlier.1 < later.1 := by
    decide +kernel
  have transitive : IsTrans (Nat × Nat) fun earlier later => earlier.1 < later.1 :=
    ⟨fun _ _ _ => Nat.lt_trans⟩
  exact List.isChain_iff_pairwise.mp chain

theorem isWordChar_iff (c : Char) : isWordChar c = true ↔ IsOfWords c :=
  coveredBy_iff wordRanges_ascending c.toNat

/-- Letters, marks, digits and connectors of any script are of words; white space, signs and
other punctuation are not. -/
example : ['z', 'é', 'Ж', '中', '\u0301', '٣', '_', '‿'].all isWordChar ∧
    ['.', '-', '@', '(', '\u00a0', '·', '€'].all (!isWordChar ·) := by
  decide +kernel

end Text

namespace Analysis

/-- A character next to a name, if there is one, is not of words. -/
def Apart (neighbour : Option Char) : Prop :=
  ∀ c ∈ neighbour, ¬ Text.IsOfWords c

/-- A text has `name` in it, with nothing of words directly behind it. -/
def Ends (name text : List Char) : Prop :=
  ∃ before after, text = before ++ name ++ after ∧ Apart after.head?

/-- A text has `name` in it as a whole word: nothing of words is directly before it or directly
behind it. -/
def Stands (name text : List Char) : Prop :=
  ∃ before after, text = before ++ name ++ after ∧ Apart before.getLast? ∧ Apart after.head?

theorem endsWord_iff (text : List Char) : endsWord text = true ↔ Apart text.head? := by
  cases text with
  | nil => simp [endsWord, Apart]
  | cons c rest => simp [endsWord, Apart, ← Text.isWordChar_iff]

theorem startsWith_iff (name text : List Char) :
    startsWith name text = true ↔ ∃ after, text = name ++ after ∧ Apart after.head? := by
  simp only [startsWith, Bool.and_eq_true, List.isPrefixOf_iff_prefix, endsWord_iff]
  constructor
  · rintro ⟨⟨after, rfl⟩, apart⟩
    rw [List.drop_left] at apart
    exact ⟨after, rfl, apart⟩
  · rintro ⟨after, rfl, apart⟩
    exact ⟨List.prefix_append name after, by rwa [List.drop_left]⟩

/-! ## The scans -/

section

variable {name : List Char} {holds : List Char → List Char → Prop}

/-- An empty text only splits around nothing. -/
theorem exists_split_nil :
    (∃ before after, [] = before ++ name ++ after ∧ holds before after) ↔
      ∃ after, [] = name ++ after ∧ holds [] after := by
  constructor
  · rintro ⟨before, after, split, known⟩
    obtain ⟨rfl, rfl⟩ : before = [] ∧ name = [] := by simp_all
    exact ⟨after, split, known⟩
  · rintro ⟨after, split, known⟩
    exact ⟨[], after, split, known⟩

/-- A text splits around a name at its first character or behind it. -/
theorem exists_split_cons {c : Char} {rest : List Char} :
    (∃ before after, c :: rest = before ++ name ++ after ∧ holds before after) ↔
      (∃ after, c :: rest = name ++ after ∧ holds [] after) ∨
        ∃ before after, rest = before ++ name ++ after ∧ holds (c :: before) after := by
  constructor
  · rintro ⟨before, after, split, known⟩
    cases before with
    | nil => exact .inl ⟨after, split, known⟩
    | cons first before =>
        obtain ⟨rfl, rfl⟩ := List.cons.inj split
        exact .inr ⟨before, after, rfl, known⟩
  · rintro (⟨after, split, known⟩ | ⟨before, after, rfl, known⟩)
    · exact ⟨[], after, split, known⟩
    · exact ⟨c :: before, after, rfl, known⟩

end

theorem occurs_iff (name text : List Char) : occurs name text = true ↔ Ends name text := by
  unfold Ends
  induction text with
  | nil => rw [occurs, startsWith_iff, exists_split_nil]
  | cons c rest ih =>
      rw [occurs, exists_split_cons, ← ih, ← startsWith_iff]
      simp

/-- Whether a character of words is directly behind `before`; when there is nothing, `inWord`
tells whether one is in front of it. -/
def wordBehind (inWord : Bool) (before : List Char) : Bool :=
  (before.getLast?.map Text.isWordChar).getD inWord

theorem wordBehind_cons (inWord : Bool) (c : Char) (before : List Char) :
    wordBehind inWord (c :: before) = wordBehind (Text.isWordChar c) before := by
  cases before with
  | nil => rfl
  | cons first before => simp [wordBehind, List.getLast?_cons]

theorem wordBehind_false_iff (before : List Char) :
    wordBehind false before = false ↔ Apart before.getLast? := by
  cases last : before.getLast? <;> simp [wordBehind, Apart, last, ← Text.isWordChar_iff]

/-- A name stands at the start of a text, with nothing of words on either side. -/
theorem startsWhole_iff (name : List Char) (inWord : Bool) (text : List Char) :
    (!inWord && startsWith name text) = true ↔
      ∃ after, text = name ++ after ∧ wordBehind inWord [] = false ∧ Apart after.head? := by
  rw [Bool.and_eq_true, startsWith_iff, Bool.not_eq_true']
  constructor
  · rintro ⟨free, after, split, apart⟩
    exact ⟨after, split, free, apart⟩
  · rintro ⟨after, split, free, apart⟩
    exact ⟨free, after, split, apart⟩

theorem occursFrom_iff (name : List Char) (inWord : Bool) (text : List Char) :
    occursFrom name inWord text = true ↔
      ∃ before after, text = before ++ name ++ after ∧
        wordBehind inWord before = false ∧ Apart after.head? := by
  induction text generalizing inWord with
  | nil => rw [occursFrom, startsWhole_iff, exists_split_nil]
  | cons c rest ih =>
      -- what stands behind the first character has that character in front of it
      simp only [exists_split_cons, wordBehind_cons]
      rw [occursFrom, ← ih, ← startsWhole_iff]
      simp

theorem occursWhole_iff (name text : List Char) :
    occursWhole name text = true ↔ Stands name text := by
  simp only [occursWhole, occursFrom_iff, wordBehind_false_iff, Stands]

/-! ## What the analysis finds -/

/-- What an analysis tells about the secure types of a text and about what a run needs. -/
structure FindsTypes (text : List Char) (types : TypeUsage) (needs : RunNeeds) : Prop where
  sharetensor : types.sharetensor = true ↔ Stands "Sharetensor".toList text
  ciphertensor : types.ciphertensor = true ↔ Stands "Ciphertensor".toList text
  mpu : types.mpu = true ↔ Stands "MPU".toList text
  mpp : types.mpp = true ↔ Stands "MPP".toList text
  mpa : types.mpa = true ↔ Stands "MPA".toList text
  usesLocal : needs.usesLocal = true ↔ Ends "@local".toList text
  needsMhe : needs.needsMhe = true ↔
    types.ciphertensor = true ∨ types.mpu = true ∨ types.mpp = true ∨ types.mpa = true ∨
      Ends "mpc.mhe".toList text
  canSkipMhe : needs.canSkipMhe = !needs.needsMhe

/-- Secure types are found as whole words.  Whatever the text, a type is found exactly when its
name stands in the text as a whole word, and the keys of homomorphic encryption are needed
exactly when one of the types that need them is found or their module is named. -/
theorem secure_types_are_whole_words (files : FileTree) (directory : Place) (path : Path)
    (source : String) :
    FindsTypes source.toList (ofSource files directory path source).types
      (ofSource files directory path source).needs where
  sharetensor := occursWhole_iff _ _
  ciphertensor := occursWhole_iff _ _
  mpu := occursWhole_iff _ _
  mpp := occursWhole_iff _ _
  mpa := occursWhole_iff _ _
  usesLocal := occurs_iff _ _
  needsMhe := by
    simp only [ofSource, needsOf, Bool.or_eq_true, occurs_iff, or_assoc]
  canSkipMhe := rfl

end Analysis

end CompileDriver
