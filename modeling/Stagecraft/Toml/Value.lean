import Stagecraft.Number

/-!
# Values of settings files

A settings file is a table of values by name.
-/

namespace Stagecraft.Toml

/-- A value of a settings file. -/
inductive Value where
  | text (value : String)
  | integer (value : Int)
  | float (value : Double)
  | boolean (value : Bool)
  /-- A date or a time. -/
  | moment
  | array (items : List Value)
  | table (entries : List (String × Value))
deriving Inhabited

end Stagecraft.Toml
