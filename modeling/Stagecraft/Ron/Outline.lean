import Stagecraft.Ron.Token

/-!
# Looking ahead

Where the parts of a present value may stand in its mark, and nobody says what the value is, one has
to find out before reading it whether there is one part or more.  For that the text is looked
through, up to the first comma at its own level or else to the closing mark.  Blanks and comments
are passed, and texts, single characters and rows of bytes are passed as wholes wherever one could
begin.  What stands directly behind such a literal is taken as it comes, even if it begins a
comment, so not every text that can be read is clear.
-/

namespace Stagecraft.Ron

/-- Pass a quoted text, if it is one.  One that is not closed makes everything unclear. -/
def passQuoted (read? : List Char → Option Quoted) (chars : List Char) : Option (List Char) :=
  match read? chars with
  | some (.ok (_, rest)) => some rest
  | some (.error .unclosed) => none
  | some (.error .malformed) | none => some chars

/-- Pass a single character, if it is one. -/
def passCharacter : List Char → List Char
  | '\x27' :: rest =>
    match readSingleQuoted byteAlone rest with
    | some (_, rest) => rest
    | none => '\x27' :: rest
  | chars => chars

/-- Pass blanks, and then literals that follow each other directly, at most one of each kind. -/
def passLiterals (bound : Nat) (chars : List Char) : Option (List Char) := do
  let chars ← skipBlanks bound chars
  let chars ← passQuoted (readText? bound) (passCharacter chars)
  passQuoted (readRow? bound) chars

/-- The outline of parts of which the first is followed by a comma. -/
def outlineAfterComma (bound : Nat) (chars : List Char) : Outline :=
  match skipBlanks bound chars with
  | some (')' :: _) => .single
  | some _ => .several
  | none => .unclear

/-- Look for the end of the first part, `level` deep in marks inside it.  The fuel counts
characters. -/
def outlineFrom : Nat → Nat → List Char → Outline
  | 0, _, _ => .unclear
  | fuel + 1, level, chars =>
    match passLiterals (fuel + 1) chars with
    | none | some [] => .unclear
    | some (c :: rest) =>
      if c = '(' ∨ c = '[' ∨ c = '\x7b' then outlineFrom fuel (level + 1) rest
      else if c = ')' ∨ c = ']' ∨ c = '\x7d' then
        match level with
        | 0 => .single
        | level + 1 => outlineFrom fuel level rest
      else if c = ',' ∧ level = 0 then outlineAfterComma fuel rest
      else outlineFrom fuel level rest

/-- The outline of the parts that begin after an opening parenthesis, up to its closing one.  A word
at the beginning is passed as a whole.  The text is no longer than `bound`. -/
def outline (bound : Nat) (chars : List Char) : Outline :=
  let start := (skipBlanks bound chars).bind fun chars =>
    match readName? chars with
    | some (_, rest) => skipBlanks bound rest
    | none => some chars
  match start with
  | none => .unclear
  | some rest => outlineFrom (bound + 1) 0 rest

end Stagecraft.Ron
