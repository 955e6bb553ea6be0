import CompileDriver.Text.Decimal

/-!
# JSON text

The documents that the analysis writes, and their layout: one member a line,
two spaces of indentation for every level, `": "` after a name.
-/

namespace CompileDriver.Json

/-- A JSON document made of objects and simple values. -/
inductive Document
  | text (value : String)
  | number (value : Nat)
  /-- A floating-point number, written with the fewest digits that read back. -/
  | decimal (value : Float)
  | flag (value : Bool)
  | object (members : List (String × Document))

/-- The digit of a number below sixteen. -/
def hexDigit (n : Nat) : Char :=
  if n < 10 then Char.ofNat (0x30 + n) else Char.ofNat (0x61 + (n - 10))

/-- How a character is written inside a quoted text.  The quote, the backslash
and the control characters below U+0020 are escaped, everything else stands
for itself. -/
def escapedChar (c : Char) : String :=
  if c = '"' then "\\\""
  else if c = '\\' then "\\\\"
  else if c = '\n' then "\\n"
  else if c = '\r' then "\\r"
  else if c = '\t' then "\\t"
  else if c.toNat = 0x08 then "\\b"
  else if c.toNat = 0x0C then "\\f"
  else if c.toNat < 0x20 then
    String.ofList ['\\', 'u', '0', '0', hexDigit (c.toNat / 16), hexDigit (c.toNat % 16)]
  else c.toString

/-- A text between quotes. -/
def quoted (text : String) : String :=
  text.foldl (fun written c => written ++ escapedChar c) "\"" ++ "\""

/-- The start of a line at nesting level `depth`. -/
def indentation (depth : Nat) : String :=
  String.ofList (List.replicate (2 * depth) ' ')

mutual

/-- A document laid out over several lines; `depth` is the level of the line
that it starts on. -/
def Document.pretty (depth : Nat) : Document → String
  | .text value => quoted value
  | .number value => toString value
  | .decimal value => Decimal.shortest value
  | .flag value => if value then "true" else "false"
  | .object [] => "\x7b\x7d"
  | .object (member :: members) =>
      "\x7b\n" ++ prettyMember (depth + 1) member ++ prettyMembers (depth + 1) members ++ "\n"
        ++ indentation depth ++ "\x7d"

/-- One member of an object. -/
def prettyMember (depth : Nat) : String × Document → String
  | (name, value) => indentation depth ++ quoted name ++ ": " ++ value.pretty depth

/-- The members after the first one, each behind a comma and a line end. -/
def prettyMembers (depth : Nat) : List (String × Document) → String
  | [] => ""
  | member :: members => ",\n" ++ prettyMember depth member ++ prettyMembers depth members

end

end CompileDriver.Json
