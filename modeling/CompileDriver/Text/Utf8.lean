import CompileDriver.Bytes

/-!
# Decoding UTF-8

A decoder that reads one byte at a time.  It keeps the text decoded so far and
what it has seen of an unfinished character; a byte that cannot continue the
unfinished character ends it with the replacement character U+FFFD and is then
read as a first byte.  Every maximal ill-formed piece therefore becomes exactly
one replacement character.

`lossy` decodes any byte string, `decode?` only well-formed ones.  Both read
the whole input by one fold over the same decoder.
-/

namespace CompileDriver.Utf8

/-- A character of which some bytes are still to come. -/
structure Unfinished where
  /-- The bits of the code point read so far. -/
  point : Nat
  /-- How many bytes are missing. -/
  missing : Nat
  /-- The smallest byte that can come next. -/
  lowest : UInt8 := 0x80
  /-- The largest byte that can come next. -/
  highest : UInt8 := 0xBF
  deriving Repr, DecidableEq

/-- The state of a decoder between two bytes. -/
structure Decoder where
  /-- What has been decoded. -/
  text : String := ""
  /-- The character that is being read, if one is. -/
  unfinished : Option Unfinished := none
  /-- Whether all bytes so far were well formed. -/
  intact : Bool := true

namespace Decoder

/-- Add a decoded character. -/
def emit (decoder : Decoder) (c : Char) : Decoder :=
  { decoder with text := decoder.text.push c, unfinished := none }

/-- Add one replacement character for an ill-formed piece. -/
def replace (decoder : Decoder) : Decoder :=
  { decoder.emit (Char.ofNat 0xFFFD) with intact := false }

/-- What a first byte announces: how many bytes follow, the bits it carries
and the range of the second byte, which excludes overlong forms, surrogates
and numbers above U+10FFFF. -/
def announced (byte : UInt8) : Option Unfinished :=
  if 0xC2 ≤ byte ∧ byte ≤ 0xDF then
    some { point := byte.toNat - 0xC0, missing := 1 }
  else if 0xE0 ≤ byte ∧ byte ≤ 0xEF then
    some
      { point := byte.toNat - 0xE0
        missing := 2
        lowest := if byte = 0xE0 then 0xA0 else 0x80
        highest := if byte = 0xED then 0x9F else 0xBF }
  else if 0xF0 ≤ byte ∧ byte ≤ 0xF4 then
    some
      { point := byte.toNat - 0xF0
        missing := 3
        lowest := if byte = 0xF0 then 0x90 else 0x80
        highest := if byte = 0xF4 then 0x8F else 0xBF }
  else
    none

/-- Read the first byte of a character. -/
def first (decoder : Decoder) (byte : UInt8) : Decoder :=
  if byte < 0x80 then
    decoder.emit (Char.ofNat byte.toNat)
  else match announced byte with
    | some unfinished => { decoder with unfinished := some unfinished }
    | none => decoder.replace

/-- Read one byte. -/
def step (decoder : Decoder) (byte : UInt8) : Decoder :=
  match decoder.unfinished with
  | none => decoder.first byte
  | some unfinished =>
      if unfinished.lowest ≤ byte ∧ byte ≤ unfinished.highest then
        let point := unfinished.point * 64 + (byte.toNat - 0x80)
        if unfinished.missing ≤ 1 then
          decoder.emit (Char.ofNat point)
        else
          { decoder with unfinished := some { point, missing := unfinished.missing - 1 } }
      else
        decoder.replace.first byte

/-- End the input: a character that is still unfinished is ill formed. -/
def finish (decoder : Decoder) : Decoder :=
  if decoder.unfinished.isSome then decoder.replace else decoder

end Decoder

/-- The decoder after all of `bytes`. -/
def decodeAll (bytes : Bytes) : Decoder :=
  (bytes.foldl Decoder.step {}).finish

/-- The text of `bytes`, with U+FFFD for every maximal ill-formed piece. -/
def lossy (bytes : Bytes) : String :=
  (decodeAll bytes).text

/-- The text of `bytes` when they are well-formed UTF-8. -/
def decode? (bytes : Bytes) : Option String :=
  let decoder := decodeAll bytes
  if decoder.intact then some decoder.text else none

/-- Whether `bytes` are well-formed UTF-8. -/
def isValid (bytes : Bytes) : Bool :=
  (decodeAll bytes).intact

end CompileDriver.Utf8
