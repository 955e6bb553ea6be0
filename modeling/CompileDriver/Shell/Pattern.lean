import CompileDriver.FileTree.Lookup

/-!
# Patterns

A pattern is a word in which unquoted `*`, `?` and bracketed sets stand for other
text.  Patterns select the commands of a choice, trim values and name files.

The names of files are matched segment by segment; a name that begins with a dot
is found only by a pattern that begins with one.
-/

namespace CompileDriver.Shell

/-- A byte of an expanded word. -/
structure Mark where
  byte : UInt8
  /-- Whether the byte stands for itself, whatever it means in a pattern. -/
  fixed : Bool
  deriving Repr, DecidableEq

/-- The bytes of marks. -/
def Mark.bytes (marks : List Mark) : Bytes :=
  marks.map Mark.byte

/-- The marks of a text that stands for itself. -/
def Mark.literal (bytes : Bytes) : List Mark :=
  bytes.map fun byte => { byte, fixed := true }

/-- A member of a bracketed set. -/
inductive SetMember
  /-- All bytes between two, both of them included. -/
  | range (first last : UInt8)
  /-- A class of bytes. -/
  | named (name : String)
  deriving Repr, DecidableEq

/-- A part of a pattern. -/
inductive PatternItem
  | byte (byte : UInt8)
  /-- Any text. -/
  | any
  /-- Any byte. -/
  | one
  /-- A byte that is in a set, or one that is not. -/
  | set (negated : Bool) (members : List SetMember)
  deriving Repr, DecidableEq

/-- A pattern. -/
abbrev Pattern := List PatternItem

/-- Whether a byte belongs to the class with a name. -/
def inClass (name : String) (byte : UInt8) : Bool :=
  let c := Char.ofNat byte.toNat
  match name with
  | "alpha" => c.isAlpha
  | "digit" => c.isDigit
  | "alnum" => c.isAlphanum
  | "lower" => c.isLower
  | "upper" => c.isUpper
  | "space" => [0x20, 0x09, 0x0A, 0x0B, 0x0C, 0x0D].contains byte
  | "blank" => byte = 0x20 || byte = 0x09
  | "punct" => 0x21 ≤ byte && byte ≤ 0x7E && !c.isAlphanum
  | "print" => 0x20 ≤ byte && byte ≤ 0x7E
  | "graph" => 0x21 ≤ byte && byte ≤ 0x7E
  | "cntrl" => byte < 0x20 || byte = 0x7F
  | "xdigit" => c.isDigit || ('a' ≤ c && c ≤ 'f') || ('A' ≤ c && c ≤ 'F')
  | _ => false

namespace SetMember

/-- Whether a byte belongs to a member of a set. -/
def contains (member : SetMember) (byte : UInt8) : Bool :=
  match member with
  | .range first last => first ≤ byte && byte ≤ last
  | .named name => inClass name byte

end SetMember

namespace Pattern

/-- An unquoted mark of a byte. -/
def isActive (byte : UInt8) (mark : Mark) : Bool :=
  !mark.fixed && mark.byte = byte

/-- Read the members of a set up to its closing bracket, which means itself in
first position.  The first argument bounds the number of steps. -/
def readMembers : Nat → Bool → List Mark → Option (List SetMember × List Mark)
  | 0, _, _ => none
  | _, _, [] => none
  | steps + 1, first, mark :: rest =>
      if isActive 0x5D mark && !first then some ([], rest)
      else
        let name := (rest.drop 1).takeWhile (!isActive 0x3A ·)
        let behind := rest.drop (1 + name.length)
        if isActive 0x5B mark && rest.head?.any (isActive 0x3A) &&
            (behind.drop 1).head?.any (isActive 0x5D) then
          (readMembers steps false (behind.drop 2)).map fun (members, rest) =>
            (.named (Utf8.lossy (Mark.bytes name)) :: members, rest)
        else match rest with
          | dash :: last :: after =>
              if isActive 0x2D dash && !isActive 0x5D last then
                (readMembers steps false after).map fun (members, rest) =>
                  (.range mark.byte last.byte :: members, rest)
              else
                (readMembers steps false rest).map fun (members, rest) =>
                  (.range mark.byte mark.byte :: members, rest)
          | _ =>
              (readMembers steps false rest).map fun (members, rest) =>
                (.range mark.byte mark.byte :: members, rest)

/-- Read a set after its opening bracket. -/
def readSet (marks : List Mark) : Option (PatternItem × List Mark) :=
  let negated := marks.head?.any fun mark => isActive 0x21 mark || isActive 0x5E mark
  let inside := if negated then marks.drop 1 else marks
  (readMembers (inside.length + 1) true inside).map fun (members, rest) =>
    (.set negated members, rest)

/-- The pattern that marks stand for.  The first argument bounds the number of
steps. -/
def ofMarksWithin : Nat → List Mark → Pattern
  | 0, _ => []
  | _, [] => []
  | steps + 1, mark :: rest =>
      if isActive 0x2A mark then .any :: ofMarksWithin steps rest
      else if isActive 0x3F mark then .one :: ofMarksWithin steps rest
      else
        let set := if isActive 0x5B mark then readSet rest else none
        match set with
        | some (item, rest) => item :: ofMarksWithin steps rest
        | none =>
            match rest with
            | escaped :: after =>
                if isActive 0x5C mark then .byte escaped.byte :: ofMarksWithin steps after
                else .byte mark.byte :: ofMarksWithin steps rest
            | [] => [.byte mark.byte]

/-- The pattern that marks stand for. -/
def ofMarks (marks : List Mark) : Pattern :=
  ofMarksWithin (marks.length + 1) marks

/-- Whether a pattern matches a whole text. -/
def isMatch : Pattern → Bytes → Bool
  | [], bytes => bytes = []
  | .any :: pattern, [] => isMatch pattern []
  | .any :: pattern, byte :: bytes =>
      isMatch pattern (byte :: bytes) || isMatch (.any :: pattern) bytes
  | .byte wanted :: pattern, byte :: bytes => wanted = byte && isMatch pattern bytes
  | .one :: pattern, _ :: bytes => isMatch pattern bytes
  | .set negated members :: pattern, byte :: bytes =>
      (members.any (·.contains byte) != negated) && isMatch pattern bytes
  | _ :: _, [] => false
  termination_by pattern bytes => (pattern.length, bytes.length)

/-- Whether a pattern consists of bytes only, so that it matches one text. -/
def isLiteral (pattern : Pattern) : Bool :=
  pattern.all fun item =>
    match item with
    | .byte _ => true
    | _ => false

/-- A text without the part at its start that a pattern matches: the longest or
the shortest such part. -/
def trimStart (pattern : Pattern) (longest : Bool) (bytes : Bytes) : Bytes :=
  let lengths := List.range (bytes.length + 1)
  match (if longest then lengths.reverse else lengths).find? fun length =>
      pattern.isMatch (bytes.take length) with
  | some length => bytes.drop length
  | none => bytes

/-- A text without the part at its end that a pattern matches: the longest or the
shortest such part. -/
def trimEnd (pattern : Pattern) (longest : Bool) (bytes : Bytes) : Bytes :=
  let lengths := List.range (bytes.length + 1)
  match (if longest then lengths else lengths.reverse).find? fun length =>
      pattern.isMatch (bytes.drop length) with
  | some length => bytes.take length
  | none => bytes

end Pattern

/-! ## Names of files -/

/-- The segments of marks between slashes. -/
def segmentsOfMarks (marks : List Mark) : List (List Mark) :=
  marks.foldr
    (fun mark segments =>
      if mark.byte = Bytes.slash then [] :: segments
      else match segments with
        | [] => [[mark]]
        | segment :: rest => (mark :: segment) :: rest)
    [[]]

/-- The names in a directory that a pattern finds. -/
def namesMatching (files : FileTree) (directory : Place) (pattern : Pattern) : List Name :=
  let hidden := pattern.head? = some (.byte Bytes.dot)
  let names := (files.children directory).map fun (place, _) => place.getLastD []
  let own := if hidden then [[Bytes.dot], [Bytes.dot, Bytes.dot]] else []
  (own ++ names).filter fun name =>
    (hidden || name.head? ≠ some Bytes.dot) && pattern.isMatch name

/-- The paths that begin with `start` and go on with names that patterns
find. -/
def pathsMatching (files : FileTree) (current : Place) (start : Path) :
    List Pattern → List Path
  | [] => if files.exists? current start then [start] else []
  | pattern :: rest =>
      let extend (name : Name) : List Path :=
        if rest = [] then
          if files.exists? current (start ++ name) || !pattern.isLiteral then [start ++ name] else []
        else pathsMatching files current (start ++ name ++ [Bytes.slash]) rest
      if pattern.isLiteral then
        extend (pattern.filterMap fun item =>
          match item with
          | .byte byte => some byte
          | _ => none)
      else
        match files.entry current (if start = [] then [Bytes.dot] else start) with
        | .ok (place, .directory true _) => (namesMatching files place pattern).flatMap extend
        | _ => []

/-- The names of files that an expanded word stands for, in the order of their
bytes; the word itself when there are none. -/
def fileNames (files : FileTree) (current : Place) (marks : List Mark) : List Bytes :=
  let patterns := (segmentsOfMarks marks).map Pattern.ofMarks
  if patterns.all Pattern.isLiteral then [Mark.bytes marks]
  else
    match (pathsMatching files current [] patterns).mergeSort (fun a b => a ≤ b) with
    | [] => [Mark.bytes marks]
    | paths => paths

end CompileDriver.Shell
