import NamedSql.Clause
import NamedSql.Error

/-!
# Statements

A statement is the shape of one SQL statement before it is written: plain data that builders fill in
and synthesis reads. A part that the action's template does not show may be filled in all the same.
-/

namespace NamedSql

abbrev FieldMap := Entries Scalar

/-- The shape of one statement. Whether it brings rows is fixed together with its action. -/
structure Statement where
  action : Action
  fetchable : Bool := action.isFetchable
  table : String := ""
  selectFields : List String := []
  fields : FieldMap := ∅
  clauses : List Clause := []
  orderBy : List String := []
  direction : String := "ASC"
  limit : Option Nat := none
  deriving BEq, Inhabited

namespace Statement

def new (action : Action) : Statement := { action, fetchable := action.isFetchable }

def named (word : String) : Except Error Statement := (Action.parse word).map new

def isFetchable (s : Statement) : Bool := s.fetchable

/-! ## Filling in -/

def setTable (s : Statement) (table : String) : Statement := { s with table }

def addSelectField (s : Statement) (field : String) : Statement :=
  { s with selectFields := s.selectFields ++ [field] }

def addSelectFields (s : Statement) (fields : List String) : Statement :=
  { s with selectFields := s.selectFields ++ fields }

/-- Sets a field to write; a field that is set already keeps its place. -/
def setField (s : Statement) (field : String) (value : Scalar) : Statement :=
  { s with fields := s.fields.set field value }

def setFields (s : Statement) (fields : List (String × Scalar)) : Statement :=
  { s with fields := s.fields.extend fields }

def addClause (s : Statement) (clause : Clause) : Statement :=
  { s with clauses := s.clauses ++ [clause] }

def addClauses (s : Statement) (clauses : List Clause) : Statement :=
  { s with clauses := s.clauses ++ clauses }

def addOrderField (s : Statement) (field : String) : Statement :=
  { s with orderBy := s.orderBy ++ [field] }

def addOrderFields (s : Statement) (fields : List String) : Statement :=
  { s with orderBy := s.orderBy ++ fields }

def setDirection (s : Statement) (direction : String) : Statement := { s with direction }

def setLimit (s : Statement) (limit : Nat) : Statement := { s with limit := some limit }

def clearLimit (s : Statement) : Statement := { s with limit := none }

/-! ## Visits -/

def fieldVisits (s : Statement) : List (String × Scalar) :=
  s.fields.toList.map fun e => (placeholder e.1, e.2)

def clauseVisits (s : Statement) : List (String × Scalar) :=
  s.clauses.map fun c => (placeholder c.field, c.value)

/-- The placeholders that the action's template shows, with their values, from left to right. A
name may occur more than once. -/
def visits (s : Statement) : List (String × Scalar) :=
  (if s.action.writesFields then s.fieldVisits else []) ++
    if s.action.filtersRows then s.clauseVisits else []

end Statement
end NamedSql
