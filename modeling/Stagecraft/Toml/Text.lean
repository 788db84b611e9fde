import Stagecraft.Text.Hex

/-!
# Blanks, texts and names in settings files

Lines end with a line feed that may follow a carriage return, and a comment runs to the end of its
line.  Texts are written between quotes, where a backslash introduces characters that cannot be
written as they are, or between apostrophes, where every character stands for itself; three quotes
or apostrophes enclose a text of several lines.
-/

namespace Stagecraft.Toml

/-- The blanks inside a line. -/
def isSpace (c : Char) : Bool := c == ' ' || c == '\t'

/-- The characters that may stand in a comment or a text: all but controls other than the tab. -/
def isPlain (c : Char) : Bool := c == '\t' || 0x20 ≤ c.toNat && c.toNat ≠ 0x7f

/-- The characters of a name without quotes. -/
def isNameChar (c : Char) : Bool := c.isAlphanum || c == '-' || c == '_'

/-! ## Blanks -/

/-- What follows the blanks at the beginning. -/
def skipSpace (chars : List Char) : List Char := chars.dropWhile isSpace

/-- What follows the end of a line. -/
def newline? : List Char → Option (List Char)
  | '\n' :: rest => some rest
  | '\r' :: '\n' :: rest => some rest
  | _ => none

/-- What follows a comment, if there is one. -/
def skipComment : List Char → List Char
  | '#' :: rest => rest.dropWhile isPlain
  | chars => chars

/-- What follows a line on which nothing but blanks and a comment is left. -/
def endLine? (chars : List Char) : Option (List Char) :=
  match skipComment (skipSpace chars) with
  | [] => some []
  | rest => newline? rest

/-- What follows a row of blanks and ends of lines. -/
def skipLines : List Char → List Char
  | '\r' :: '\n' :: rest => skipLines rest
  | c :: rest => if isSpace c || c == '\n' then skipLines rest else c :: rest
  | [] => []

/-- What follows a row of blanks, ends of lines and comments. -/
def skipVoid (inComment : Bool) : List Char → List Char
  | '\r' :: '\n' :: rest => skipVoid false rest
  | c :: rest =>
    if c == '\n' then skipVoid false rest
    else if inComment then
      if isPlain c then skipVoid true rest else c :: rest
    else if isSpace c then skipVoid false rest
    else if c == '#' then skipVoid true rest
    else c :: rest
  | [] => []

/-! ## Texts -/

/-- Read a character given by its code point in a fixed number of hexadecimal digits. -/
def readCode (count : Nat) (chars : List Char) : Option (Char × List Char) :=
  let digits := chars.take count
  if digits.length = count then
    (Text.hexValue? digits).bind fun code =>
      if code.isValidChar then some (Char.ofNat code, chars.drop count) else none
  else none

/-- Read a character that is written through a backslash. -/
def readEscape : List Char → Option (Char × List Char)
  | 'u' :: rest => readCode 4 rest
  | 'U' :: rest => readCode 8 rest
  | c :: rest =>
    if c = '"' ∨ c = '\\' then some (c, rest)
    else if c = 'n' then some ('\n', rest)
    else if c = 't' then some ('\t', rest)
    else if c = 'r' then some ('\r', rest)
    else if c = 'b' then some ('\x08', rest)
    else if c = 'f' then some ('\x0c', rest)
    else none
  | [] => none

/-- Put a character in front of a text that has been read. -/
def push (c : Char) (read : Option (List Char × List Char)) : Option (List Char × List Char) :=
  read.map fun (text, rest) => (c :: text, rest)

/-- Read a text on one line up to its closing quote.  The fuel counts characters. -/
def readQuoted : Nat → List Char → Option (List Char × List Char)
  | 0, _ => none
  | _, [] => none
  | _ + 1, '"' :: rest => some ([], rest)
  | fuel + 1, '\\' :: rest =>
    (readEscape rest).bind fun (c, rest) => push c (readQuoted fuel rest)
  | fuel + 1, c :: rest => if isPlain c then push c (readQuoted fuel rest) else none

/-- Read a text on one line up to its closing apostrophe. -/
def readLiteral : List Char → Option (List Char × List Char)
  | [] => none
  | c :: rest =>
    if c = '\x27' then some ([], rest)
    else if isPlain c then push c (readLiteral rest)
    else none

/-- Read a text of several lines up to three closing marks, before which up to two more belong to
the text.  A backslash counts only between quotes; one at the end of a line joins it with the next
text.  The fuel counts characters. -/
def readLong (mark : Char) : Nat → List Char → Option (List Char × List Char)
  | 0, _ => none
  | fuel + 1, chars =>
    let marks := (chars.takeWhile (· = mark)).length
    if 3 ≤ marks then
      if marks ≤ 5 then some (List.replicate (marks - 3) mark, chars.drop marks) else none
    else
      match chars with
      | [] => none
      | '\r' :: '\n' :: rest => push '\n' (readLong mark fuel rest)
      | '\n' :: rest => push '\n' (readLong mark fuel rest)
      | c :: rest =>
        if c = '\\' ∧ mark = '"' then
          if (newline? (skipSpace rest)).isSome then readLong mark fuel (skipLines rest)
          else (readEscape rest).bind fun (c, rest) => push c (readLong mark fuel rest)
        else if isPlain c then push c (readLong mark fuel rest)
        else none

/-- Read the text of several lines after its opening marks; an end of line there is left out. -/
def readLongFrom (mark : Char) (chars : List Char) : Option (List Char × List Char) :=
  let body := (newline? chars).getD chars
  readLong mark (body.length + 1) body

/-- Read a text on one line. -/
def readLine? : List Char → Option (List Char × List Char)
  | '"' :: rest => readQuoted (rest.length + 1) rest
  | '\x27' :: rest => readLiteral rest
  | _ => none

/-- Read a text. -/
def readText? : List Char → Option (List Char × List Char)
  | '"' :: '"' :: '"' :: rest => readLongFrom '"' rest
  | '\x27' :: '\x27' :: '\x27' :: rest => readLongFrom '\x27' rest
  | chars => readLine? chars

/-! ## Names -/

/-- Read a name, which may be written as a text on one line. -/
def readName? (chars : List Char) : Option (String × List Char) :=
  match readLine? chars with
  | some (name, rest) => some (String.ofList name, rest)
  | none =>
    let name := chars.takeWhile isNameChar
    if name.isEmpty then none else some (String.ofList name, chars.dropWhile isNameChar)

/-- Read a row of names with points between them.  The fuel counts names. -/
def readPath : Nat → List Char → Option (List String × List Char)
  | 0, _ => none
  | fuel + 1, chars => do
    let (name, rest) ← readName? (skipSpace chars)
    match skipSpace rest with
    | '.' :: rest =>
      let (names, rest) ← readPath fuel rest
      return (name :: names, rest)
    | rest => return ([name], rest)

/-- More levels than this one are not accepted, neither of names nor of values. -/
def levelLimit : Nat := 79

/-- Read a row of names. -/
def readPath? (chars : List Char) : Option (List String × List Char) := readPath levelLimit chars

end Stagecraft.Toml
