import NamedSql.Identifier
import NamedSql.Placeholder

/-!
# Where clauses

A clause compares one field with one value; its glue joins it to the clause before. Neither the
comparison nor the sequence of glues is checked.
-/

namespace NamedSql

inductive Glue where
  | none
  | and
  | or
  deriving DecidableEq, Repr

namespace Glue

instance : Inhabited Glue := ⟨.none⟩

def keyword : Glue → String
  | .none => ""
  | .and => "AND"
  | .or => "OR"

def name : Glue → String
  | .none => "none"
  | .and => "and"
  | .or => "or"

def all : List Glue := [.none, .and, .or]

def lead (g : Glue) : String := if g = .none then "" else g.keyword ++ " "

end Glue

structure Clause where
  glue : Glue
  field : String
  /-- The comparison, such as `=` or `LIKE`. -/
  condition : String
  value : Scalar
  deriving BEq, DecidableEq, Inhabited

def Clause.text (c : Clause) : String :=
  c.glue.lead ++ Identifier.quote c.field ++ c.condition ++ placeholder c.field

end NamedSql
