/-!
# Highlighted text

Messages for a terminal are set off by escape sequences: a colour, a modifier,
or a colour followed by a modifier.  Every highlighted message ends by switching
all effects off.
-/

namespace CompileDriver

/-- A colour of the text. -/
inductive Colour
  | red
  | green
  | yellow
  | blue
  | magenta
  deriving Repr, DecidableEq

/-- An effect that can come with a colour. -/
inductive Modifier
  | bold
  | underline
  deriving Repr, DecidableEq

/-- What sets a message off. -/
structure Decoration where
  colour : Option Colour := none
  modifier : Option Modifier := none
  deriving Repr, DecidableEq

namespace Highlight

/-- The start of every escape sequence. -/
def escape : String := "\x1b["

/-- The sequence that switches all effects off. -/
def reset : String := escape ++ "0m"

end Highlight

/-- The number of a colour. -/
def Colour.number : Colour → Nat
  | .red => 31
  | .green => 32
  | .yellow => 33
  | .blue => 34
  | .magenta => 35

/-- The sequence that switches a colour on, in its bright form. -/
def Colour.sequence (colour : Colour) : String :=
  Highlight.escape ++ toString colour.number ++ ";1m"

/-- The sequence that switches an effect on. -/
def Modifier.sequence : Modifier → String
  | .bold => Highlight.escape ++ "1m"
  | .underline => Highlight.escape ++ "4m"

namespace Decoration

/-- Bold text. -/
def bold : Decoration := { modifier := some .bold }

/-- Bold text in a colour. -/
def boldIn (colour : Colour) : Decoration :=
  { colour := some colour, modifier := some .bold }

/-- The sequences that switch the decoration on: first the colour, then the
modifier. -/
def sequence (decoration : Decoration) : String :=
  (decoration.colour.map Colour.sequence).getD "" ++
    (decoration.modifier.map Modifier.sequence).getD ""

/-- A message set off by the decoration. -/
def apply (decoration : Decoration) (message : String) : String :=
  decoration.sequence ++ message ++ Highlight.reset

end Decoration

/-- The line that reports an error to the user. -/
def errorLine (message : String) : String :=
  (Decoration.boldIn .red).apply "error" ++ ": " ++ Decoration.bold.apply message ++ "\n"

end CompileDriver
