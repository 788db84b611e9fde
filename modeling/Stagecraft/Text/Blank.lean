import Stagecraft.Text.Words

/-!
# Blank characters

The blank characters are those with the Unicode property `White_Space`.  The words of a line are
what stands between runs of blanks.
-/

namespace Stagecraft.Text

/-- Whether the character has the property `White_Space`. -/
def isBlank (c : Char) : Bool :=
  let code := c.toNat
  9 ≤ code && code ≤ 13 || code == 0x20 || code == 0x85 || code == 0xa0 || code == 0x1680 ||
    0x2000 ≤ code && code ≤ 0x200a || code == 0x2028 || code == 0x2029 || code == 0x202f ||
    code == 0x205f || code == 0x3000

/-- The words of a line. -/
def words (line : String) : List String := wordsAt isBlank line

/-- Whether a text holds nothing but blanks. -/
def isBlankText (text : String) : Bool := text.toList.all isBlank

end Stagecraft.Text
