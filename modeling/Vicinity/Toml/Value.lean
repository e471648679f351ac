/-!
TOML values. A date or time is kept as the text in which it is written out again.
-/

namespace Vicinity.Toml

/-- A TOML value. The keys of a table are all different. -/
inductive Value where
  | string (s : String)
  | int (i : Int)
  | float (x : Float)
  | bool (b : Bool)
  | moment (text : String)
  | array (items : List Value)
  | table (entries : List (String × Value))

end Vicinity.Toml
