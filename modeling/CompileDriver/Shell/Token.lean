import CompileDriver.Shell.Grammar

/-!
# Tokens of shell scripts

A script is read byte by byte, each byte as the character with its number, and
cut into words, redirection operators and control operators.  Every token knows
its line; the last one marks the end of the script, or what is wrong with it.

The functions carry a bound on the number of steps, which callers set to the
length of the script; every step consumes at least one character.
-/

namespace CompileDriver.Shell

/-- A token of a script. -/
inductive Token.Kind
  | word (word : Word)
  /-- A redirection of a number; the file is the next word. -/
  | redirection (number : Nat) (target : RedirectionTarget)
  /-- A control operator. -/
  | operator (text : String)
  /-- The end of the script. -/
  | ending
  /-- The script cannot be read any further. -/
  | broken (message : String)
  deriving Repr, DecidableEq

/-- A token on a line. -/
structure Token where
  line : Nat
  kind : Token.Kind
  deriving Repr, DecidableEq

/-- The bytes of characters that stand for bytes. -/
def toBytes (chars : List Char) : Bytes :=
  chars.map fun c => c.toNat.toUInt8

/-- The characters that stand for bytes. -/
def ofBytes (bytes : Bytes) : List Char :=
  bytes.map fun byte => Char.ofNat byte.toNat

/-- Whether a character can stand in the name of a variable. -/
def isNameChar (c : Char) : Bool :=
  c.isAlphanum || c = '_'

/-- Whether characters are the name of a variable. -/
def isName (chars : List Char) : Bool :=
  match chars with
  | [] => false
  | c :: _ => !c.isDigit && chars.all isNameChar

/-- Whether an unquoted character ends a word. -/
def endsWord (c : Char) : Bool :=
  [' ', '\t', '\n', ';', '&', '|', '<', '>', '(', ')'].contains c

/-! ## Enclosed text -/

/-- Text and its surroundings: what stands before a closing character, and what
follows it; or the innermost closing character that is missing. -/
abbrev Enclosed := Except Char (List Char × List Char)

/-- More text in front of enclosed text. -/
def Enclosed.behind (front : List Char) (enclosed : Enclosed) : Enclosed :=
  enclosed.map fun (inside, rest) => (front ++ inside, rest)

/-- Read up to a backquote.  Nothing in between has a meaning, apart from a
backslash, which protects a character. -/
def readToBackquote : List Char → Enclosed
  | [] => .error '\x60'
  | '\\' :: c :: rest => Enclosed.behind ['\\', c] (readToBackquote rest)
  | c :: rest =>
      if c = '\x60' then .ok ([], rest) else Enclosed.behind [c] (readToBackquote rest)

/-- Whether a text begins with a word and a blank. -/
def startsWithWord (word : String) (chars : List Char) : Bool :=
  word.toList.isPrefixOf chars && (chars.drop word.length).head?.all endsWord

/-- Whether a text begins with the words in front of the clauses of a choice. -/
def startsChoice (chars : List Char) : Bool :=
  let isBlank (c : Char) := c = ' ' || c = '\t'
  let subject := (chars.drop 4).dropWhile isBlank
  let behind := (subject.dropWhile (!isBlank ·)).dropWhile isBlank
  startsWithWord "case" chars && startsWithWord "in" behind

/-- Where a reader of enclosed text is. -/
structure EnclosedPlace where
  /-- Whether the text stands in double quotes. -/
  quoted : Bool
  /-- How many choices have begun; the brackets behind their patterns close
  nothing. -/
  choices : Nat := 0
  /-- Whether a word can begin here. -/
  fresh : Bool := true

/-- The place behind a character, with a text ahead. -/
def EnclosedPlace.next (place : EnclosedPlace) (close c : Char) (rest : List Char) :
    EnclosedPlace :=
  let begins := close = ')' && place.fresh
  { place with
    fresh := endsWord c
    choices :=
      if begins && startsChoice (c :: rest) then place.choices + 1
      else if begins && startsWithWord "esac" (c :: rest) then place.choices - 1
      else place.choices }

/-- Read up to a closing character that does not belong to a quotation or to a
nested substitution. -/
def readEnclosedFrom : Nat → Char → EnclosedPlace → List Char → Enclosed
  | 0, close, _, _ => .error close
  | _, close, _, [] => .error close
  | steps + 1, close, place, c :: rest =>
      let go (c : Char) := readEnclosedFrom steps close (place.next close c rest)
      let onward (front : List Char) (enclosed : Enclosed) : Enclosed :=
        match enclosed with
        | .error missing => .error missing
        | .ok (inside, rest) => Enclosed.behind (front ++ inside) (go '"' rest)
      let nested (front : List Char) (inner : Char) (quoted : Bool) (rest : List Char) :=
        onward front
          ((readEnclosedFrom steps inner { quoted } rest).map fun (inside, rest) =>
            (inside ++ [inner], rest))
      if c = close && place.choices = 0 then .ok ([], rest)
      else match c, rest with
        | '\\', d :: rest => Enclosed.behind ['\\', d] (go c rest)
        | '$', '\x7b' :: rest => nested ['$', '\x7b'] '\x7d' place.quoted rest
        | '$', '(' :: rest => nested ['$', '('] ')' false rest
        | _, _ =>
            if c = '\'' && !place.quoted then
              match rest.dropWhile (· != '\'') with
              | [] => .error c
              | _ :: after =>
                  Enclosed.behind (c :: rest.takeWhile (· != '\'') ++ [c]) (go c after)
            else if c = '"' then nested [c] '"' true rest
            else if c = '\x60' then
              onward [c] ((readToBackquote rest).map fun (inside, rest) => (inside ++ [c], rest))
            else if c = '(' && close = ')' then nested [c] ')' false rest
            else Enclosed.behind [c] (go c rest)

/-- Read up to a closing character that does not belong to a quotation or to a
nested substitution.  `quoted` tells whether the text stands in double
quotes. -/
def readEnclosed (close : Char) (quoted : Bool) (chars : List Char) : Enclosed :=
  readEnclosedFrom (chars.length + 1) close { quoted } chars

/-- The complaint about a missing closing character. -/
def missingClose : Char → String
  | '\x7d' => "Syntax error: Missing '\x7d'"
  | ')' => "Syntax error: end of file unexpected (expecting \")\")"
  | '\x60' => "Syntax error: EOF in backquote substitution"
  | _ => "Syntax error: Unterminated quoted string"

/-- The inside of parentheses that enclose the whole text. -/
def insideParentheses? (chars : List Char) : Option (List Char) :=
  match chars with
  | '(' :: rest =>
      match readEnclosed ')' false rest with
      | .ok (inside, []) => some inside
      | _ => none
  | _ => none

/-- A script between backquotes, with the backslashes removed that protect
characters from the quotation. -/
def unquoteScript (quoted : Bool) : List Char → List Char
  | '\\' :: c :: rest =>
      if ['$', '\x60', '\\'].contains c || (quoted && c = '"') then c :: unquoteScript quoted rest
      else '\\' :: c :: unquoteScript quoted rest
  | c :: rest => c :: unquoteScript quoted rest
  | [] => []

/-! ## Parameters -/

/-- The parameter with a name. -/
def Parameter.ofName (name : List Char) : Parameter :=
  match name with
  | ['#'] => .count
  | ['*'] => .joined
  | ['@'] => .each
  | ['?'] => .status
  | ['$'] => .process
  | ['!'] => .background
  | ['-'] => .options
  | _ =>
      if !name.isEmpty && name.all Char.isDigit then .position ((String.ofList name).toNat?.getD 0)
      else .named (toBytes name)

/-- Whether a character is the name of a parameter by itself. -/
def isSpecialName (c : Char) : Bool :=
  ['#', '*', '@', '?', '$', '!', '-'].contains c

/-- The name that a text begins with, and the rest. -/
def splitName (chars : List Char) : List Char × List Char :=
  match chars with
  | [] => ([], [])
  | c :: rest =>
      if c.isDigit then (chars.takeWhile Char.isDigit, chars.dropWhile Char.isDigit)
      else if isNameChar c then (chars.takeWhile isNameChar, chars.dropWhile isNameChar)
      else if isSpecialName c then ([c], rest)
      else ([], chars)

/-- The modifier that stands behind the name of a parameter. -/
def readModifier? : List Char → Option Modifier
  | [] => some .plain
  | ':' :: '-' :: word => some (.orElse .unsetOrEmpty (toBytes word))
  | ':' :: '=' :: word => some (.orAssign .unsetOrEmpty (toBytes word))
  | ':' :: '?' :: word => some (.orFail .unsetOrEmpty (toBytes word))
  | ':' :: '+' :: word => some (.ifPresent .unsetOrEmpty (toBytes word))
  | '-' :: word => some (.orElse .unset (toBytes word))
  | '=' :: word => some (.orAssign .unset (toBytes word))
  | '?' :: word => some (.orFail .unset (toBytes word))
  | '+' :: word => some (.ifPresent .unset (toBytes word))
  | '#' :: '#' :: pattern => some (.trim false true (toBytes pattern))
  | '#' :: pattern => some (.trim false false (toBytes pattern))
  | '%' :: '%' :: pattern => some (.trim true true (toBytes pattern))
  | '%' :: pattern => some (.trim true false (toBytes pattern))
  | _ => none

/-- The parameter and the modifier that stand between braces. -/
def readBraced? (inside : List Char) : Option (Parameter × Modifier) :=
  let plain (chars : List Char) : Option (Parameter × Modifier) :=
    match splitName chars with
    | ([], _) => none
    | (name, rest) => (readModifier? rest).map (Parameter.ofName name, ·)
  match inside with
  | '#' :: rest =>
      match splitName rest with
      | (_ :: _, []) => some (Parameter.ofName rest, .length)
      | _ => plain inside
  | _ => plain inside

/-- The outcome of reading a piece: the piece and the rest, or what is
wrong. -/
abbrev PieceRead := Except String (Piece × List Char)

/-- Read what follows a dollar sign. -/
def readDollar (quoted : Bool) : List Char → PieceRead
  | '\x7b' :: rest =>
      match readEnclosed '\x7d' quoted rest with
      | .error missing => .error (missingClose missing)
      | .ok (inside, rest) =>
          let (parameter, modifier) := (readBraced? inside).getD (.named [], .unknown)
          .ok (.parameter parameter modifier quoted, rest)
  | '(' :: rest =>
      match readEnclosed ')' false rest with
      | .error missing =>
          if rest.head? = some '(' && missing = ')' then .error "Syntax error: Missing '))'"
          else .error (missingClose missing)
      | .ok (inside, rest) =>
          match insideParentheses? inside with
          | some expression => .ok (.arithmetic (toBytes expression) quoted, rest)
          | none => .ok (.output (toBytes inside) false quoted, rest)
  | c :: rest =>
      if c.isDigit || isSpecialName c then
        .ok (.parameter (Parameter.ofName [c]) .plain quoted, rest)
      else if isNameChar c then
        let (name, rest) := splitName (c :: rest)
        .ok (.parameter (.named (toBytes name)) .plain quoted, rest)
      else .ok (.literal (toBytes ['$']) quoted, c :: rest)
  | [] => .ok (.literal (toBytes ['$']) quoted, [])

/-- Read what follows a backquote. -/
def readBackquoted (quoted : Bool) (rest : List Char) : PieceRead :=
  match readToBackquote rest with
  | .error missing => .error (missingClose missing)
  | .ok (inside, rest) => .ok (.output (toBytes (unquoteScript quoted inside)) true quoted, rest)

/-! ## Words -/

/-- A word with more literal bytes in front, which join the literal piece that
the word begins with. -/
def addLiteral (chars : List Char) (quoted : Bool) : Word → Word
  | .literal bytes alike :: pieces =>
      if alike = quoted then .literal (toBytes chars ++ bytes) quoted :: pieces
      else .literal (toBytes chars) quoted :: .literal bytes alike :: pieces
  | pieces => .literal (toBytes chars) quoted :: pieces

/-- The outcome of reading a word: its pieces and the rest, or what is
wrong. -/
abbrev WordRead := Except String (Word × List Char)

/-- More literal text in front of a word. -/
def WordRead.behindLiteral (chars : List Char) (quoted : Bool) (word : WordRead) : WordRead :=
  word.map fun (pieces, rest) => (addLiteral chars quoted pieces, rest)

/-- More pieces in front of a word. -/
def WordRead.behindPieces (front : Word) (word : WordRead) : WordRead :=
  word.map fun (pieces, rest) => (front ++ pieces, rest)

/-- Where quoted text ends. -/
inductive QuoteEnd
  /-- At a double quote. -/
  | mark
  /-- At the end of the text, in which double quotes mean nothing. -/
  | textEnd
  /-- At the end of the text, in which double quotes are left out. -/
  | braceEnd
  deriving Repr, DecidableEq

/-- Read text in which only substitutions have a meaning: the pieces, and what
follows the end. -/
def readQuoted : Nat → QuoteEnd → List Char → WordRead
  | 0, _, rest => .ok ([], rest)
  | _, .mark, [] => .error "Syntax error: Unterminated quoted string"
  | _, _, [] => .ok ([], [])
  | steps + 1, close, c :: rest =>
      let go := readQuoted steps close
      let goOn (piece : PieceRead) : WordRead :=
        match piece with
        | .error message => .error message
        | .ok (piece, rest) => WordRead.behindPieces [piece] (go rest)
      match c, rest with
      | '\\', '\n' :: rest => go rest
      | '\\', d :: rest =>
          if ['$', '\\', '\x60'].contains d || (d = '"' && close ≠ .textEnd) then
            WordRead.behindLiteral [d] true (go rest)
          else WordRead.behindLiteral ['\\', d] true (go rest)
      | '$', _ => goOn (readDollar true rest)
      | _, _ =>
          if c = '\x60' then goOn (readBackquoted true rest)
          else if c = '"' && close = .mark then .ok ([], rest)
          else if c = '"' && close = .braceEnd then go rest
          else WordRead.behindLiteral [c] true (go rest)

/-- Read a word: its pieces and what follows it.  A word that is `open'` ends
with the text only. -/
def readWord (open' : Bool) : Nat → List Char → WordRead
  | 0, rest => .ok ([], rest)
  | _, [] => .ok ([], [])
  | steps + 1, c :: rest =>
      let go := readWord open' steps
      let goOn (piece : PieceRead) : WordRead :=
        match piece with
        | .error message => .error message
        | .ok (piece, rest) => WordRead.behindPieces [piece] (go rest)
      match c, rest with
      | '\\', '\n' :: rest => go rest
      | '\\', d :: rest => WordRead.behindLiteral [d] true (go rest)
      | '$', _ => goOn (readDollar false rest)
      | _, _ =>
          if c = '\'' then
            match rest.dropWhile (· != '\'') with
            | [] => .error "Syntax error: Unterminated quoted string"
            | _ :: after =>
                WordRead.behindLiteral (rest.takeWhile (· != '\'')) true (go after)
          else if c = '"' then
            match readQuoted (rest.length + 1) .mark rest with
            | .error message => .error message
            | .ok (quoted, rest) =>
                WordRead.behindPieces (if quoted.isEmpty then [.literal [] true] else quoted)
                  (go rest)
          else if c = '\x60' then goOn (readBackquoted false rest)
          else if endsWord c && !open' then .ok ([], c :: rest)
          else WordRead.behindLiteral [c] false (go rest)

/-- The word that a whole text stands for. -/
def wordOfText (text : Bytes) : Except String Word :=
  (readWord true (text.length + 1) (ofBytes text)).map Prod.fst

/-- The word that a whole text stands for between double quotes. -/
def wordOfQuoted (close : QuoteEnd) (text : Bytes) : Except String Word :=
  (readQuoted (text.length + 1) close (ofBytes text)).map Prod.fst

/-! ## Operators -/

/-- Read a redirection operator, after the number that may precede it. -/
def readRedirection (number : Option Nat) : List Char → Option (Token.Kind × List Char)
  | '>' :: '>' :: rest => some (.redirection (number.getD 1) .append, rest)
  | '>' :: '&' :: rest => some (.redirection (number.getD 1) .number, rest)
  | '>' :: '|' :: rest => some (.redirection (number.getD 1) .replace, rest)
  | '>' :: rest => some (.redirection (number.getD 1) .replace, rest)
  | '<' :: '<' :: rest => some (.redirection (number.getD 0) .here, rest)
  | '<' :: '&' :: rest => some (.redirection (number.getD 0) .number, rest)
  | '<' :: rest => some (.redirection (number.getD 0) .read, rest)
  | _ => none

/-- Read a control operator. -/
def readOperator : List Char → Option (Token.Kind × List Char)
  | '&' :: '&' :: rest => some (.operator "&&", rest)
  | '|' :: '|' :: rest => some (.operator "||", rest)
  | ';' :: ';' :: rest => some (.operator ";;", rest)
  | ';' :: rest => some (.operator ";", rest)
  | '\n' :: rest => some (.operator "\n", rest)
  | '&' :: rest => some (.operator "&", rest)
  | '|' :: rest => some (.operator "|", rest)
  | '(' :: rest => some (.operator "(", rest)
  | ')' :: rest => some (.operator ")", rest)
  | _ => none

/-- Read one token from a text that begins with none of the blanks. -/
def readToken (chars : List Char) : Token.Kind × List Char :=
  let digits := chars.takeWhile Char.isDigit
  let numbered :=
    if digits = [] then none
    else readRedirection (String.ofList digits).toNat? (chars.drop digits.length)
  match numbered with
  | some token => token
  | none =>
      match readRedirection none chars with
      | some token => token
      | none =>
          match readOperator chars with
          | some token => token
          | none =>
              match readWord false (chars.length + 1) chars with
              | .ok (word, rest) => (.word word, rest)
              | .error message => (.broken message, [])

/-! ## Texts that stand in a script -/

/-- The delimiter of a text: its characters without quotation, and whether some
were quoted. -/
def delimiterOf (word : Word) : List Char × Bool :=
  (word.flatMap fun piece =>
      match piece with
      | .literal bytes _ => ofBytes bytes
      | _ => [],
    word.any fun piece =>
      match piece with
      | .literal _ quoted => quoted
      | _ => false)

/-- The lines up to the one that is the delimiter, each with its line end, and
what follows it.  Where `indented`, the tabs at the start of lines do not
count. -/
def readLines (delimiter : List Char) (indented : Bool) :
    Nat → List Char → List (List Char) × List Char
  | 0, rest => ([], rest)
  | _, [] => ([], [])
  | steps + 1, chars =>
      let line := chars.takeWhile (· != '\n')
      let lineEnd := (chars.drop line.length).take 1
      let after := chars.drop (line.length + 1)
      let line := if indented then line.dropWhile (· = '\t') else line
      if line = delimiter then ([], after)
      else
        let (lines, rest) := readLines delimiter indented steps after
        ((line ++ lineEnd) :: lines, rest)

/-- The word for the lines of a text that stands in a script. -/
def hereWord (delimiter : Word) (lines : List (List Char)) : Token.Kind :=
  let text := toBytes lines.flatten
  if (delimiterOf delimiter).2 then .word [.literal text true]
  else
    match wordOfQuoted .textEnd text with
    | .ok word => .word word
    | .error message => .broken message

/-- Read the delimiter of a text and the text, which begins on the next line:
the word for it, the script without it, and how many lines it takes. -/
def readHere (chars : List Char) : Token.Kind × List Char × Nat :=
  let indented := chars.head? = some '-'
  let chars := (if indented then chars.drop 1 else chars).dropWhile fun c => c = ' ' || c = '\t'
  match readWord false (chars.length + 1) chars with
  | .error message => (.broken message, [], 0)
  | .ok (delimiter, rest) =>
      let sameLine := rest.takeWhile (· != '\n')
      let below := (rest.dropWhile (· != '\n')).drop 1
      let (lines, after) := readLines (delimiterOf delimiter).1 indented (below.length + 1) below
      (hereWord delimiter lines, sameLine ++ '\n' :: after, lines.length + 1)

/-! ## Scripts -/

/-- The tokens of a script from a line on.  `owed` counts the lines of the texts
that have been taken out of the script behind the current line. -/
def tokensFrom : Nat → Nat → Nat → List Char → List Token
  | 0, line, _, _ => [{ line, kind := .ending }]
  | _, line, _, [] => [{ line, kind := .ending }]
  | steps + 1, line, owed, c :: rest =>
      if c = ' ' || c = '\t' then tokensFrom steps line owed rest
      else if c = '#' then tokensFrom steps line owed (rest.dropWhile (· != '\n'))
      else if c = '\\' && rest.head? = some '\n' then
        tokensFrom steps (line + 1) owed (rest.drop 1)
      else
        let (kind, after) := readToken (c :: rest)
        match kind with
        | .broken _ => [{ line := line + owed + (c :: rest).count '\n', kind }]
        | .redirection number .here =>
            let (text, after, lines) := readHere after
            { line, kind := .redirection number .here } :: { line, kind := text } ::
              tokensFrom steps line (owed + lines) after
        | .operator "\n" => { line, kind } :: tokensFrom steps (line + 1 + owed) 0 after
        | _ =>
            let consumed := (c :: rest).take ((c :: rest).length - after.length)
            { line, kind } :: tokensFrom steps (line + consumed.count '\n') owed after

/-- The tokens of a script. -/
def tokens (script : Bytes) : List Token :=
  tokensFrom (script.length + 1) 1 0 (ofBytes script)

end CompileDriver.Shell
