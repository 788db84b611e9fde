import Stagecraft.Decimal.Shortest
import Stagecraft.Ron.Node
import Stagecraft.Text.Quoted

/-!
# Writing object notation

A tree is written without blanks.  Numbers are written with the fewest digits that read back, and
numbers that are not counts always show a point, so that the two kinds can be told apart.
-/

namespace Stagecraft.Ron

/-- The written form of a number. -/
def Number.text : Number → String
  | .natural n => Decimal.digitText n
  | .single x => (decodeSingle x).pointed .single
  | .double x => (decodeDouble x).pointed .double

/-- The written form of a name. -/
def Name.render (n : Name) : String := if n.raw then "r#" ++ n.text else n.text

/-- The written form of a name that may be missing. -/
def Name.renderOption : Option Name → String
  | none => ""
  | some n => n.render

/-- Parts separated by commas between two marks. -/
def enclosed (opening closing : String) (parts : List String) : String :=
  opening ++ ",".intercalate parts ++ closing

mutual

/-- The written form of a tree. -/
def Node.render : Tree → String
  | .word name => name.render
  | .number value => value.text
  | .text value => Text.quoted true value
  | .list items => enclosed "[" "]" (Node.texts items)
  | .map entries => enclosed "\x7b" "\x7d" (Node.entryTexts entries)
  | .unit => "()"
  | .tuple name items => Name.renderOption name ++ enclosed "(" ")" (Node.texts items)
  | .record name fields => Name.renderOption name ++ enclosed "(" ")" (Node.fieldTexts fields)
  | .marked _ parts => "Some" ++ enclosed "(" ")" (Node.texts parts)
  | .present part => "Some " ++ part.render
  | .foreign => ""

/-- The written forms of a list of trees. -/
def Node.texts : List Tree → List String
  | [] => []
  | item :: rest => item.render :: Node.texts rest

/-- The written forms of the entries of a map. -/
def Node.entryTexts : List (Tree × Tree) → List String
  | [] => []
  | (key, value) :: rest => (key.render ++ ":" ++ value.render) :: Node.entryTexts rest

/-- The written forms of the parts of a record. -/
def Node.fieldTexts : List (String × Tree) → List String
  | [] => []
  | (name, value) :: rest => (name ++ ":" ++ value.render) :: Node.fieldTexts rest

end

end Stagecraft.Ron
