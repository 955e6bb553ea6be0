/-!
# Byte strings

Files, streams, paths and program arguments carry arbitrary bytes.  This
module fixes their type and the few operations that the rest of the library
needs on them: conversion from text, splitting at a separator and tests for a
known beginning or end.

Every operation is a fold or a library operation on lists, so that its depth
does not depend on how long a byte string is.
-/

namespace CompileDriver

/-- A string of bytes, not necessarily valid UTF-8. -/
abbrev Bytes := List UInt8

namespace Bytes

/-- The UTF-8 encoding of a text. -/
def ofText (text : String) : Bytes :=
  text.toUTF8.data.toList

/-- The byte `/`, which separates the segments of a path. -/
def slash : UInt8 := 0x2F

/-- The byte `.`. -/
def dot : UInt8 := 0x2E

/-- The line feed, which ends a line. -/
def newline : UInt8 := 0x0A

/-- The pieces of `bytes` between the occurrences of `separator`.  There is
one piece more than there are separators, so the list is never empty. -/
def splitAt (separator : UInt8) (bytes : Bytes) : List Bytes :=
  bytes.foldr
    (fun byte pieces =>
      if byte = separator then [] :: pieces
      else match pieces with
        | [] => [[byte]]
        | piece :: rest => (byte :: piece) :: rest)
    [[]]

/-- `bytes` split directly after its last line feed: the complete lines and
the unfinished one. -/
def splitLastLine (bytes : Bytes) : Bytes × Bytes :=
  let reversed := bytes.reverse
  ((reversed.dropWhile (· != newline)).reverse, (reversed.takeWhile (· != newline)).reverse)

/-- Splitting after the last line feed loses nothing. -/
theorem splitLastLine_append (bytes : Bytes) :
    (splitLastLine bytes).1 ++ (splitLastLine bytes).2 = bytes := by
  simp [splitLastLine, ← List.reverse_append]

/-- `count` copies of `bytes`, one after the other. -/
def copies (count : Nat) (bytes : Bytes) : Bytes :=
  (List.replicate count bytes).flatten

end Bytes

end CompileDriver
