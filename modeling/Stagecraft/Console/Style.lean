/-!
# Styles of the console

A styled text stands between a sequence of control characters that names its attributes and colour
and one that ends every style.  Where a styled text holds the end of a style itself, the outer style
is taken up again.  Without colours every text is plain.
-/

namespace Stagecraft

/-- A colour of the terminal: one of its own, or a mixture of red, green and blue. -/
inductive Colour where
  | green
  | yellow
  | brightBlue
  | brightYellow
  | mix (red green blue : Nat)
deriving DecidableEq, Inhabited

/-- The code of a colour. -/
def Colour.code : Colour → String
  | .green => "32"
  | .yellow => "33"
  | .brightBlue => "94"
  | .brightYellow => "93"
  | .mix r g b => s!"38;2;{r};{g};{b}"

/-- How a text is shown. -/
structure Style where
  bold : Bool := false
  dimmed : Bool := false
  underline : Bool := false
  italic : Bool := false
  colour : Option Colour := none
deriving DecidableEq, Inhabited

namespace Style

/-- The style of an actor's name. -/
def actor : Style := { underline := true, colour := some (.mix 13 130 60) }

/-- The style of a scene's name. -/
def scene : Style := { underline := true, colour := some (.mix 223 77 10) }

/-- The style of a verb. -/
def verb : Style := { colour := some (.mix 220 180 40) }

/-- The style of a description. -/
def description : Style := { italic := true, colour := some (.mix 102 208 250) }

/-- The style of what an actor says. -/
def speech : Style := { colour := some (.mix 230 230 30) }

/-- The style of something that happens. -/
def event : Style := { dimmed := true, colour := some (.mix 150 230 30) }

/-- The style of a line in a dialog. -/
def dialog : Style := { italic := true, colour := some (.mix 75 180 255) }

/-- The style of the prompt. -/
def prompt : Style := { colour := some (.mix 75 80 75) }

/-- The style of a heading. -/
def subheading : Style := { underline := true }

/-- The style of what went wrong. -/
def error : Style := { colour := some (.mix 230 30 30) }

/-- The style of a remark. -/
def remark : Style := { dimmed := true }

/-- The style of a warning. -/
def warning : Style := { bold := true, colour := some .yellow }

/-- The style of the player's name. -/
def player : Style := { bold := true, colour := some .brightBlue }

/-- The style of the world's title. -/
def title : Style := { underline := true, colour := some .brightYellow }

/-- The codes of a style, the attributes before the colour. -/
def codes (s : Style) : List String :=
  let flag := fun (b : Bool) code => if b then [code] else []
  flag s.bold "1" ++ flag s.dimmed "2" ++ flag s.underline "4" ++ flag s.italic "3" ++
    (s.colour.map Colour.code).toList

/-- The sequence that begins a style. -/
def start (s : Style) : String := "\x1b[" ++ ";".intercalate s.codes ++ "m"

/-- The sequence that ends every style. -/
def reset : String := "\x1b[0m"

/-- A text in which a style is taken up again after each end of a style. -/
def resume (start : List Char) : List Char → List Char
  | '\x1b' :: '[' :: '0' :: 'm' :: rest => reset.toList ++ start ++ resume start rest
  | c :: rest => c :: resume start rest
  | [] => []

/-- A text in a style. -/
def paint (colours : Bool) (s : Style) (text : String) : String :=
  if colours then
    s.start ++ String.ofList (resume s.start.toList text.toList) ++ reset
  else text

end Style

end Stagecraft
