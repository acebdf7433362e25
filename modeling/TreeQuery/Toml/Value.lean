/-
Values of TOML documents. Floats and times are kept as they are written; nothing here
computes with them.
-/

namespace TreeQuery.Toml

/-- A value. The entries of a table are in the order in which their keys came first. -/
inductive Value where
  | string (text : String)
  | integer (value : Int)
  | float (text : String)
  | boolean (value : Bool)
  | time (text : String)
  | array (values : List Value)
  | table (entries : List (String × Value))
deriving Repr

/-- The entries of a document. -/
abbrev Document := List (String × Value)

end TreeQuery.Toml
