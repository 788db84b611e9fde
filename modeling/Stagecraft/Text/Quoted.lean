import Stagecraft.Text.Numbered

/-!
# Quoted text

A text is quoted by writing the characters that would be misread through a backslash: the quote and
the backslash themselves, line ends, tabs and nulls by a letter, and other invisible characters by
their code point in hexadecimal.
-/

namespace Stagecraft.Text

/-- The written form of one character inside quotes.  Whether a single quote needs a backslash is
up to the notation the text is written in. -/
def escapeChar (escapeSingle : Bool) (c : Char) : List Char :=
  if c = '\x00' then ['\\', '0']
  else if c = '\t' then ['\\', 't']
  else if c = '\r' then ['\\', 'r']
  else if c = '\n' then ['\\', 'n']
  else if c = '\\' then ['\\', '\\']
  else if c = '"' then ['\\', '"']
  else if c = '\x27' then if escapeSingle then ['\\', c] else [c]
  else if isNumbered c then
    ['\\', 'u', '\x7b'] ++ Nat.toDigits 16 c.toNat ++ ['\x7d']
  else [c]

/-- A text in double quotes. -/
def quoted (escapeSingle : Bool) (text : String) : String :=
  "\"" ++ String.ofList (text.toList.flatMap (escapeChar escapeSingle)) ++ "\""

/-- A text in double quotes as messages show it. -/
def shown (text : String) : String := quoted false text

/-- An optional value as messages show it. -/
def shownOption {α : Type} (each : α → String) : Option α → String
  | none => "None"
  | some x => "Some(" ++ each x ++ ")"

/-- An optional text as messages show it. -/
def shownOptionText : Option String → String := shownOption shown

/-- A truth value as messages show it. -/
def shownBool (b : Bool) : String := if b then "true" else "false"

/-- An optional truth value as messages show it. -/
def shownOptionBool : Option Bool → String := shownOption shownBool

end Stagecraft.Text
