import CompileDriver.Analysis.Basic
import Mathlib.Algebra.BigOperators.Intervals
import Mathlib.Data.List.TakeWhile

/-!
# Counting calls

The analysis counts the calls of a method from the left and goes on behind each of them.  As a
call begins with a dot and has no other one, calls do not overlap, so that this is the number of
positions at which a call stands.  A call that stands across the seam of two texts has all that
is left of the first text to itself, so that there is at most one.
-/

namespace CompileDriver.Analysis

/-- A text begins with a call of one of the methods: its name, white space, and an opening
parenthesis. -/
def BeginsCall (methods : List (List Char)) (text : List Char) : Prop :=
  ∃ method ∈ methods, ∃ blanks after,
    text = method ++ blanks ++ '(' :: after ∧ ∀ c ∈ blanks, Text.isBlank c = true

/-- The names of methods begin with a dot and have no other one. -/
def Dotted (methods : List (List Char)) : Prop :=
  ∀ method ∈ methods, ∃ word, method = '.' :: word ∧ '.' ∉ word

/-! ## Calls at the start of a text -/

section

variable {methods : List (List Char)} {text after : List Char}

/-- White space before an opening parenthesis ends there. -/
theorem dropWhile_isBlank_append {blanks : List Char} (blank : ∀ c ∈ blanks, Text.isBlank c = true)
    (after : List Char) : (blanks ++ '(' :: after).dropWhile Text.isBlank = '(' :: after := by
  rw [List.dropWhile_append_of_pos blank]
  exact List.dropWhile_cons_of_neg (by decide)

theorem begins_of_afterCall? (found : afterCall? methods text = some after) :
    ∃ method ∈ methods, ∃ blanks, text = method ++ blanks ++ '(' :: after ∧
      ∀ c ∈ blanks, Text.isBlank c = true := by
  obtain ⟨method, member, found⟩ := List.exists_of_findSome?_eq_some found
  split at found
  · rename_i isPrefix
    obtain ⟨rest, rfl⟩ := List.isPrefixOf_iff_prefix.mp isPrefix
    rw [List.drop_left] at found
    split at found
    · rename_i behind dropped
      cases found
      refine ⟨method, member, rest.takeWhile Text.isBlank, ?_, fun c => List.mem_takeWhile_imp⟩
      rw [List.append_assoc, ← dropped, List.takeWhile_append_dropWhile]
    · cases found
  · cases found

theorem afterCall?_isSome_iff :
    (afterCall? methods text).isSome = true ↔ BeginsCall methods text := by
  constructor
  · intro isCall
    obtain ⟨after, found⟩ := Option.isSome_iff_exists.mp isCall
    obtain ⟨method, member, blanks, split, blank⟩ := begins_of_afterCall? found
    exact ⟨method, member, blanks, after, split, blank⟩
  · rintro ⟨method, member, blanks, after, rfl, blank⟩
    rw [afterCall?, List.findSome?_isSome_iff]
    refine ⟨method, member, ?_⟩
    rw [List.append_assoc, if_pos (List.isPrefixOf_iff_prefix.mpr (List.prefix_append _ _)),
      List.drop_left, dropWhile_isBlank_append blank]
    rfl

instance : DecidablePred (BeginsCall methods) := fun _ => decidable_of_iff _ afterCall?_isSome_iff

theorem not_begins_of_afterCall? (missing : afterCall? methods text = none) :
    ¬ BeginsCall methods text := by
  rw [← afterCall?_isSome_iff, missing]
  exact Bool.false_ne_true

/-- A call at the start of a text is there whatever follows. -/
theorem BeginsCall.append (begins : BeginsCall methods text) (rest : List Char) :
    BeginsCall methods (text ++ rest) := by
  obtain ⟨method, member, blanks, after, rfl, blank⟩ := begins
  exact ⟨method, member, blanks, after ++ rest, by simp, blank⟩

section

variable (dotted : Dotted methods)

include dotted

/-- Behind the dot that it begins with, a call has no other dot up to its parenthesis. -/
theorem undotted_of_call {method blanks : List Char} (member : method ∈ methods)
    (blank : ∀ c ∈ blanks, Text.isBlank c = true) :
    ∃ word, method ++ blanks ++ ['('] = '.' :: word ∧ '.' ∉ word := by
  obtain ⟨word, rfl, single⟩ := dotted method member
  refine ⟨word ++ blanks ++ ['('], by simp, ?_⟩
  have notBlank : '.' ∉ blanks := fun isBlank => absurd (blank '.' isBlank) (by decide)
  simp [single, notBlank]

theorem BeginsCall.head {c : Char} (begins : BeginsCall methods (c :: text)) : c = '.' := by
  obtain ⟨method, member, blanks, after, split, -⟩ := begins
  obtain ⟨word, rfl, -⟩ := dotted method member
  exact (List.cons.inj split).1

/-- A call that is only there because of what follows takes all that is left of the first
text. -/
theorem BeginsCall.undotted {c : Char} {rest : List Char}
    (begins : BeginsCall methods (c :: text ++ rest)) (across : ¬ BeginsCall methods (c :: text)) :
    '.' ∉ text := by
  obtain ⟨method, member, blanks, after, split, blank⟩ := begins
  obtain ⟨word, call, single⟩ := undotted_of_call dotted member blank
  have whole : c :: text ++ rest = (method ++ blanks ++ ['(']) ++ after := by simp [split]
  rcases List.append_eq_append_iff.mp whole with ⟨more, longer, -⟩ | ⟨more, longer, -⟩
  · rw [call] at longer
    obtain ⟨rfl, rfl⟩ := List.cons.inj longer
    exact fun isDot => single (List.mem_append_left more isDot)
  · exact absurd ⟨method, member, blanks, more, by simp [longer], blank⟩ across

end

end

/-! ## Positions -/

/-- The positions of a text at which a call of one of the methods stands. -/
def callPositions (methods : List (List Char)) (text : List Char) : Finset Nat :=
  (Finset.range text.length).filter fun position => BeginsCall methods (text.drop position)

section

variable (methods : List (List Char))

theorem card_callPositions_nil : (callPositions methods []).card = 0 := rfl

theorem card_callPositions_cons (c : Char) (rest : List Char) :
    (callPositions methods (c :: rest)).card =
      (callPositions methods rest).card + if BeginsCall methods (c :: rest) then 1 else 0 := by
  rw [callPositions, Finset.card_filter, List.length_cons, Finset.sum_range_succ']
  simp only [List.drop_succ_cons, List.drop_zero]
  rw [← Finset.card_filter, callPositions]

variable {methods} (dotted : Dotted methods)

include dotted

theorem card_callPositions_cons_of_ne {c : Char} (other : c ≠ '.') (rest : List Char) :
    (callPositions methods (c :: rest)).card = (callPositions methods rest).card := by
  rw [card_callPositions_cons, if_neg fun begins => other (begins.head dotted), Nat.add_zero]

/-- No call begins in a stretch without dots. -/
theorem card_callPositions_append {skipped : List Char} (undotted : '.' ∉ skipped)
    (rest : List Char) :
    (callPositions methods (skipped ++ rest)).card = (callPositions methods rest).card := by
  induction skipped with
  | nil => rfl
  | cons c skipped ih =>
      rw [List.mem_cons, not_or] at undotted
      rw [List.cons_append, card_callPositions_cons_of_ne dotted (Ne.symm undotted.1),
        ih undotted.2]

/-- Behind a call stand the other ones. -/
theorem card_callPositions_of_afterCall? {text after : List Char}
    (found : afterCall? methods text = some after) :
    (callPositions methods text).card = (callPositions methods after).card + 1 := by
  obtain ⟨method, member, blanks, split, blank⟩ := begins_of_afterCall? found
  obtain ⟨word, call, single⟩ := undotted_of_call dotted member blank
  have begins : BeginsCall methods text := ⟨method, member, blanks, after, split, blank⟩
  obtain rfl : text = '.' :: (word ++ after) := by
    rw [split, ← List.cons_append, ← call]
    simp
  rw [card_callPositions_cons, if_pos begins, card_callPositions_append dotted single]

theorem countCallsFrom_eq (counted : Nat) (text : List Char) :
    countCallsFrom methods counted text = counted + (callPositions methods text).card := by
  fun_induction countCallsFrom methods counted text with
  | case1 counted text after found ih =>
      rw [ih, card_callPositions_of_afterCall? dotted found]
      omega
  | case2 counted missing => rfl
  | case3 counted c rest missing ih =>
      rw [ih, card_callPositions_cons, if_neg (not_begins_of_afterCall? missing), Nat.add_zero]

/-- As many calls are counted as there are positions at which one stands. -/
theorem countCalls_eq (text : List Char) :
    countCalls methods text = (callPositions methods text).card := by
  rw [countCalls, countCallsFrom_eq dotted, Nat.zero_add]

/-- At most one call stands across the seam of two texts. -/
theorem card_callPositions_seam (first second : List Char) :
    (callPositions methods (first ++ second)).card =
        (callPositions methods first).card + (callPositions methods second).card ∨
      (callPositions methods (first ++ second)).card =
        (callPositions methods first).card + (callPositions methods second).card + 1 := by
  induction first with
  | nil => exact .inl (Nat.zero_add _).symm
  | cons c rest ih =>
      by_cases across : BeginsCall methods (c :: rest ++ second) ∧ ¬ BeginsCall methods (c :: rest)
      · -- the call across the seam is the only one that begins in the first text
        obtain ⟨begins, unfinished⟩ := across
        have undotted := begins.undotted dotted unfinished
        have none : (callPositions methods rest).card = 0 := by
          simpa [card_callPositions_nil] using card_callPositions_append dotted undotted []
        right
        rw [List.cons_append, card_callPositions_cons, card_callPositions_cons, if_neg unfinished,
          if_pos (by exact begins), card_callPositions_append dotted undotted, none]
        omega
      · have same : BeginsCall methods (c :: rest ++ second) ↔ BeginsCall methods (c :: rest) :=
          ⟨fun begins => by_contra fun unfinished => across ⟨begins, unfinished⟩,
            fun begins => begins.append second⟩
        rw [List.cons_append, card_callPositions_cons, card_callPositions_cons]
        simp only [← List.cons_append, same]
        omega

end

/-! ## What the analysis counts -/

def encryptMethods : List (List Char) := [".encrypt".toList]

def decryptMethods : List (List Char) := [".decrypt".toList, ".reveal".toList]

theorem dotted_encryptMethods : Dotted encryptMethods := by
  intro method member
  obtain rfl := List.mem_singleton.mp member
  exact ⟨"encrypt".toList, rfl, by decide⟩

theorem dotted_decryptMethods : Dotted decryptMethods := by
  intro method member
  rcases List.mem_pair.mp member with rfl | rfl
  · exact ⟨"decrypt".toList, rfl, by decide⟩
  · exact ⟨"reveal".toList, rfl, by decide⟩

/-- The operations of a text are counted by their positions. -/
structure CountsPositions (text : List Char) (operations : OperationCounts) : Prop where
  encrypt : operations.encrypt = (callPositions encryptMethods text).card
  decrypt : operations.decrypt = (callPositions decryptMethods text).card
  matmul : operations.matmul = text.count '@'

/-- The operations of two texts, and those of the first one followed by the second. -/
structure AddUp (first second whole : OperationCounts) : Prop where
  encrypt : whole.encrypt = first.encrypt + second.encrypt ∨
    whole.encrypt = first.encrypt + second.encrypt + 1
  decrypt : whole.decrypt = first.decrypt + second.decrypt ∨
    whole.decrypt = first.decrypt + second.decrypt + 1
  matmul : whole.matmul = first.matmul + second.matmul

theorem countsPositions_operationsOf (text : List Char) :
    CountsPositions text (operationsOf text) where
  encrypt := countCalls_eq dotted_encryptMethods text
  decrypt := countCalls_eq dotted_decryptMethods text
  matmul := rfl

/-- Operations are counted by their positions, in a text and in two texts one after the other:
calls add up but for one that may stand across the seam. -/
theorem operations_are_counted_by_position (files : FileTree) (directory : Place) (path : Path) :
    let operations source := (ofSource files directory path source).operations
    (∀ source, CountsPositions source.toList (operations source)) ∧
      ∀ first second,
        AddUp (operations first) (operations second) (operations (first ++ second)) := by
  intro operations
  have counts (source : String) : CountsPositions source.toList (operations source) :=
    countsPositions_operationsOf source.toList
  refine ⟨counts, fun first second => ?_⟩
  have whole := counts (first ++ second)
  rw [String.toList_append] at whole
  constructor
  · rw [whole.encrypt, (counts first).encrypt, (counts second).encrypt]
    exact card_callPositions_seam dotted_encryptMethods _ _
  · rw [whole.decrypt, (counts first).decrypt, (counts second).decrypt]
    exact card_callPositions_seam dotted_decryptMethods _ _
  · rw [whole.matmul, (counts first).matmul, (counts second).matmul, List.count_append]

/-- A call stands across the seam of two texts that have none. -/
example :
    (operationsOf "key.encrypt ".toList).encrypt = 0 ∧ (operationsOf "\n(x)".toList).encrypt = 0 ∧
      (operationsOf "key.encrypt \n(x)".toList).encrypt = 1 := by
  decide +kernel

end CompileDriver.Analysis
