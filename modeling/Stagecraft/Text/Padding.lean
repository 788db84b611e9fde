/-!
# Padding

Columns are filled with spaces to a width counted in characters; a text that is already wide enough
is left alone.
-/

namespace Stagecraft.Text

/-- A row of spaces. -/
def spaces (count : Nat) : String := String.ofList (List.replicate count ' ')

/-- A text filled with spaces on the right. -/
def padRight (width : Nat) (text : String) : String := text ++ spaces (width - text.length)

/-- A text filled with spaces on the left. -/
def padLeft (width : Nat) (text : String) : String := spaces (width - text.length) ++ text

/-- A text set in the middle of the width; an odd space goes to the right. -/
def center (width : Nat) (text : String) : String :=
  let gap := width - text.length
  spaces (gap / 2) ++ text ++ spaces (gap - gap / 2)

end Stagecraft.Text
