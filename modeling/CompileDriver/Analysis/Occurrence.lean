import CompileDriver.Text.Blank
import CompileDriver.Text.Word

/-!
# Occurrences in a source text

Two questions that the analysis asks about a text: whether a name occurs in it
as a whole word, and how many calls of a method it contains.  A name stands as a
whole word where no character of words is directly before it or directly after
it.  A call is the name of the method behind a dot, white space, and an opening
parenthesis.
-/

namespace CompileDriver.Analysis

/-- Whether a text does not begin with a character of words. -/
def endsWord : List Char → Bool
  | [] => true
  | c :: _ => !Text.isWordChar c

/-- Whether `name` stands at the start of a text and no character of words
follows it. -/
def startsWith (name text : List Char) : Bool :=
  name.isPrefixOf text && endsWord (text.drop name.length)

/-- Whether `name` occurs in a text with no character of words after it. -/
def occurs (name : List Char) : List Char → Bool
  | [] => startsWith name []
  | c :: rest => if startsWith name (c :: rest) then true else occurs name rest

/-- Whether `name` occurs as a whole word in a text; `inWord` tells whether a
character of words stands directly before the text. -/
def occursFrom (name : List Char) (inWord : Bool) : List Char → Bool
  | [] => !inWord && startsWith name []
  | c :: rest =>
      if !inWord && startsWith name (c :: rest) then true
      else occursFrom name (Text.isWordChar c) rest

/-- Whether `name` occurs as a whole word in a text. -/
def occursWhole (name text : List Char) : Bool :=
  occursFrom name false text

/-- What follows the opening parenthesis when a text begins with a call of one
of the methods. -/
def afterCall? (methods : List (List Char)) (text : List Char) : Option (List Char) :=
  methods.findSome? fun method =>
    if method.isPrefixOf text then
      match (text.drop method.length).dropWhile Text.isBlank with
      | '(' :: after => some after
      | _ => none
    else none

/-- What follows a call is shorter than the text. -/
theorem length_lt_of_afterCall? {methods : List (List Char)} {text after : List Char}
    (h : afterCall? methods text = some after) : after.length < text.length := by
  obtain ⟨method, _, found⟩ := List.exists_of_findSome?_eq_some h
  split at found
  · split at found
    · rename_i rest dropped
      have shorter : ('(' :: rest).length ≤ (text.drop method.length).length := by
        rw [← dropped]
        exact (List.dropWhile_sublist _).length_le
      simp only [List.length_cons, List.length_drop, Option.some.injEq] at shorter found
      subst found
      omega
    · simp at found
  · simp at found

/-- How many calls of the methods a text contains, found from the left and
without overlap, on top of `counted` ones. -/
def countCallsFrom (methods : List (List Char)) (counted : Nat) (text : List Char) : Nat :=
  match found : afterCall? methods text with
  | some after => countCallsFrom methods (counted + 1) after
  | none =>
      match text with
      | [] => counted
      | _ :: rest => countCallsFrom methods counted rest
  termination_by text.length
  decreasing_by
    · exact length_lt_of_afterCall? found
    · simp

/-- How many calls of the methods a text contains. -/
def countCalls (methods : List (List Char)) (text : List Char) : Nat :=
  countCallsFrom methods 0 text

end CompileDriver.Analysis
