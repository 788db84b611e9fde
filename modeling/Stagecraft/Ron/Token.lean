import Stagecraft.Ron.Node
import Stagecraft.Text.Hex
import Stagecraft.Text.Identifier

/-!
# Tokens of object notation

A text is cut into words, numbers, quoted texts and punctuation marks.  Blanks and comments separate
tokens; block comments may be nested.  Numbers keep the form in which they were written, because
what is a good number depends on where it stands.  Single characters and rows of bytes are literals
too, but nothing is read from them.
-/

namespace Stagecraft.Ron

open Text (hexValue?)

/-- A piece of a text in object notation. -/
inductive Token where
  | word (name : Name)
  | number (lexeme : String)
  | text (value : String)
  | foreign
  /-- Parentheses with nothing between them. -/
  | unit
  /-- Any other opening parenthesis, with the text after it and a bound on its length. -/
  | opening (after : List Char) (bound : Nat)
  | mark (c : Char)
deriving DecidableEq, Inhabited

/-- The characters that separate tokens. -/
def isSpace (c : Char) : Bool :=
  c == ' ' || 9 ≤ c.toNat && c.toNat ≤ 13 || c.toNat == 0x85 || c.toNat == 0x200e ||
    c.toNat == 0x200f || c.toNat == 0x2028 || c.toNat == 0x2029

/-- The characters with which a word begins. -/
def isWordStart (c : Char) : Bool := c.isAlpha || c == '_' || Text.beginsIdentifier c

/-- The characters of a word after the first. -/
def isWordChar (c : Char) : Bool := isWordStart c || c.isDigit || Text.continuesIdentifier c

/-- The characters of a word that is marked as raw. -/
def isRawWordChar (c : Char) : Bool := isWordChar c || c == '.' || c == '+' || c == '-'

/-- The characters with which a number begins. -/
def isNumberStart (c : Char) : Bool := c.isDigit || c == '+' || c == '-' || c == '.'

/-- The characters of a number, its base and its type included. -/
def isNumberChar (c : Char) : Bool := isNumberStart c || c.isAlpha || c == '_'

/-- The character whose encoding in bytes is the given list. -/
def charOfBytes? (bytes : List Nat) : Option Char :=
  (String.fromUTF8? ⟨(bytes.map Nat.toUInt8).toArray⟩).bind (·.toList.head?)

/-- Read on after a byte that was written as `\xNN`: further bytes written so are added until they
make up a character, which takes at most four. -/
def readByteChar (bytes : List Nat) : Nat → List Char → Option (Char × List Char)
  | 0, _ => none
  | more + 1, chars =>
    match charOfBytes? bytes with
    | some c => some (c, chars)
    | none =>
      match chars with
      | '\\' :: 'x' :: a :: b :: rest =>
        (hexValue? [a, b]).bind fun byte => readByteChar (bytes ++ [byte]) more rest
      | _ => none

/-- How to go on after a byte that was written as `\xNN`. -/
abbrev ByteReader := Nat → List Char → Option (Char × List Char)

/-- In a text, bytes make up characters. -/
def byteInText : ByteReader := fun byte rest => readByteChar [byte] 4 rest

/-- A single character is one byte. -/
def byteAlone : ByteReader := fun byte rest => readByteChar [byte] 1 rest

/-- In a row of bytes, each byte stands for itself. -/
def byteInRow : ByteReader := fun byte rest => some (Char.ofNat byte, rest)

/-- Read a character that was written through a backslash. -/
def readEscape (ofByte : ByteReader) : List Char → Option (Char × List Char)
  | 'x' :: a :: b :: rest => (hexValue? [a, b]).bind fun byte => ofByte byte rest
  | 'u' :: '\x7b' :: rest =>
    let digits := (rest.take 6).takeWhile (· ≠ '\x7d')
    match rest.drop digits.length with
    | '\x7d' :: rest =>
      if digits.isEmpty then none
      else
        (hexValue? digits).bind fun code =>
          if code.isValidChar then some (Char.ofNat code, rest) else none
    | _ => none
  | c :: rest =>
    if c = '\x27' ∨ c = '"' ∨ c = '\\' then some (c, rest)
    else if c = 'n' then some ('\n', rest)
    else if c = 'r' then some ('\r', rest)
    else if c = 't' then some ('\t', rest)
    else if c = '0' then some ('\x00', rest)
    else none
  | [] => none

/-- Why a quoted text cannot be read: there is no quote at all to close it, or something before
that is no character. -/
inductive QuoteError where
  | unclosed
  | malformed
deriving DecidableEq, Inhabited

/-- What has been read of a quoted text, and what follows it. -/
abbrev Quoted := Except QuoteError (List Char × List Char)

/-- Read a text up to its closing quote.  The fuel counts characters. -/
def readQuoted (ofByte : ByteReader) : Nat → List Char → Quoted
  | 0, _ => .error .unclosed
  | _, [] => .error .unclosed
  | _ + 1, '"' :: rest => .ok ([], rest)
  | fuel + 1, '\\' :: rest =>
    match readEscape ofByte rest with
    | none => .error (if rest.contains '"' then .malformed else .unclosed)
    | some (c, rest) =>
      (readQuoted ofByte fuel rest).map fun (text, rest) => (c :: text, rest)
  | fuel + 1, c :: rest =>
    (readQuoted ofByte fuel rest).map fun (text, rest) => (c :: text, rest)

/-- Read a single character up to its closing quote, from the character on. -/
def readSingleQuoted (ofByte : ByteReader) : List Char → Option (Char × List Char)
  | '\\' :: rest =>
    match readEscape ofByte rest with
    | some (c, '\x27' :: rest) => some (c, rest)
    | _ => none
  | c :: '\x27' :: rest => some (c, rest)
  | _ => none

/-- Read a single byte up to its closing quote, from the byte on.  It is a character of ASCII or two
digits. -/
def readByte : List Char → Option (Char × List Char)
  | '\\' :: 'u' :: _ => none
  | '\\' :: rest => readSingleQuoted byteInRow ('\\' :: rest)
  | chars => (readSingleQuoted byteInRow chars).filter fun found => found.1.toNat < 128

/-- Read a raw text up to a quote that is followed by the given number of hash signs. -/
def readRaw (hashes : Nat) : List Char → Quoted
  | [] => .error .unclosed
  | c :: rest =>
    if c = '"' ∧ rest.take hashes = List.replicate hashes '#' then .ok ([], rest.drop hashes)
    else (readRaw hashes rest).map fun (text, rest) => (c :: text, rest)

/-- Read a raw text from the hash signs before its opening quote. -/
def readRawFrom (chars : List Char) : Quoted :=
  let hashes := (chars.takeWhile (· = '#')).length
  match chars.drop hashes with
  | '"' :: rest => readRaw hashes rest
  | _ => .error .malformed

/-- Read the text that begins with the first of the given characters, of which there are at most
`bound`. -/
def readText? (bound : Nat) : List Char → Option Quoted
  | '"' :: rest => some (readQuoted byteInText bound rest)
  | 'r' :: rest => some (readRawFrom rest)
  | _ => none

/-- Read the row of bytes that begins with the first of the given characters, of which there are at
most `bound`. -/
def readRow? (bound : Nat) : List Char → Option Quoted
  | 'b' :: '"' :: rest => some (readQuoted byteInRow bound rest)
  | 'b' :: 'r' :: rest => some (readRawFrom rest)
  | _ => none

/-- Skip a block comment, `level` deep in nested comments. -/
def skipBlock : Nat → List Char → Option (List Char)
  | 0, rest => some rest
  | _, [] => none
  | level + 1, '/' :: '*' :: rest => skipBlock (level + 2) rest
  | level + 1, '*' :: '/' :: rest => skipBlock level rest
  | level + 1, _ :: rest => skipBlock (level + 1) rest

/-- Skip blanks and comments.  The fuel counts characters. -/
def skipBlanks : Nat → List Char → Option (List Char)
  | 0, chars => some chars
  | fuel + 1, chars =>
    match chars.dropWhile isSpace with
    | '/' :: '/' :: rest => skipBlanks fuel (rest.dropWhile (· ≠ '\n'))
    | '/' :: '*' :: rest => (skipBlock 1 rest).bind (skipBlanks fuel)
    | '/' :: _ => none
    | rest => some rest

/-- Read a word or number and what follows it. -/
def readWhile (p : Char → Bool) (chars : List Char) : String × List Char :=
  (String.ofList (chars.takeWhile p), chars.dropWhile p)

/-- Read the word that begins with the first of the given characters.  None does where a literal
with a letter before its quote begins. -/
def readName? : List Char → Option (Name × List Char)
  | 'b' :: '\x27' :: _ | 'b' :: '"' :: _ | 'b' :: 'r' :: '"' :: _ | 'b' :: 'r' :: '#' :: _ => none
  | 'r' :: '"' :: _ => none
  | 'r' :: '#' :: rest =>
    if rest.head?.any isRawWordChar then
      let (text, rest) := readWhile isRawWordChar rest
      some (⟨text, true⟩, rest)
    else none
  | c :: rest =>
    if isWordStart c then
      let (text, rest) := readWhile isWordChar (c :: rest)
      some (.plain text, rest)
    else none
  | [] => none

/-- Read the token that begins with the first of the given characters, of which there are at most
`bound`. -/
def readToken (bound : Nat) (chars : List Char) : Option (Token × List Char) :=
  match readName? chars with
  | some (name, rest) => some (.word name, rest)
  | none =>
    match readText? bound chars, readRow? bound chars, chars with
    | some quoted, _, _ =>
      quoted.toOption.map fun (text, rest) => (.text (String.ofList text), rest)
    | none, some quoted, _ => quoted.toOption.map fun (_, rest) => (.foreign, rest)
    | none, none, 'b' :: '\x27' :: rest => (readByte rest).map fun (_, rest) => (.foreign, rest)
    | none, none, '\x27' :: rest =>
      (readSingleQuoted byteAlone rest).map fun (_, rest) => (.foreign, rest)
    | none, none, '(' :: ')' :: rest => some (.unit, rest)
    | none, none, '(' :: rest => some (.opening rest bound, rest)
    | none, none, c :: rest =>
      if isNumberStart c then
        let (lexeme, rest) := readWhile isNumberChar (c :: rest)
        some (.number lexeme, rest)
      else if ")[]\x7b\x7d:,#!".toList.contains c then some (.mark c, rest)
      else none
    | none, none, [] => none

/-- Cut a text into tokens.  The fuel counts characters. -/
def tokensFrom : Nat → List Char → Option (List Token)
  | 0, chars => if chars.isEmpty then some [] else none
  | fuel + 1, chars => do
    match ← skipBlanks (fuel + 1) chars with
    | [] => some []
    | chars =>
      let (token, rest) ← readToken (fuel + 1) chars
      let tokens ← tokensFrom fuel rest
      some (token :: tokens)

/-- The tokens of a text, if it can be cut into tokens. -/
def tokens? (text : String) : Option (List Token) :=
  tokensFrom (text.length + 1) text.toList

end Stagecraft.Ron
