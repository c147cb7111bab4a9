/-!
# TOML documents as they are written

A document is a list of lines: headers and assignments. Keys are still dotted and inline tables still
lists of assignments; what they amount to is settled when tables are built.
-/

namespace NamedSql.Toml

/-- A dotted key: the tables on the way, and the name in the last of them. -/
structure Key where
  path : List String := []
  name : String
  deriving DecidableEq, Repr

/-- A written value. Floats and dates are kept as text. -/
inductive Expr where
  | string (text : String)
  | integer (value : Int)
  | float (text : String)
  | boolean (value : Bool)
  | dateTime (text : String)
  | array (items : List Expr)
  | inlineTable (pairs : List (Key × Expr))
  deriving Inhabited, Repr

inductive Line where
  | header (key : Key)
  /-- The header of one more table of an array, in double brackets. -/
  | arrayHeader (key : Key)
  | assign (key : Key) (value : Expr)
  deriving Repr

end NamedSql.Toml
