import NamedSql.Decimal.Digits
import NamedSql.Statement
import NamedSql.Statement.Fragments

/-!
# The SQL text of a statement

Each action has a template, a list of pieces some of which may be absent:

* `SELECT fields FROM table where order limit`
* `INSERT INTO table (names) VALUES (placeholders)`
* `UPDATE table SET assignments where order limit`
* `DELETE FROM table where order limit`
-/

namespace NamedSql.Statement

/-! ## Pieces -/

def columns (s : Statement) : String :=
  if s.selectFields = [] then "*" else Identifier.quoteList s.selectFields

def fieldNames (s : Statement) : String :=
  "(" ++ Identifier.quoteList s.fields.names ++ ")"

def fieldPlaceholders (s : Statement) : String :=
  "(" ++ ",".intercalate (s.fields.names.map placeholder) ++ ")"

def assignment (field : String) : String :=
  Identifier.quote field ++ "=" ++ placeholder field

def assignments (s : Statement) : String :=
  ",".intercalate (s.fields.names.map assignment)

def condition? (s : Statement) : Option String :=
  if s.clauses = [] then none else some ("WHERE " ++ " ".intercalate (s.clauses.map Clause.text))

def order? (s : Statement) : Option String :=
  if s.orderBy = [] then none
  else some ("ORDER BY " ++ Identifier.quoteList s.orderBy ++ " " ++ s.direction)

def limit? (s : Statement) : Option String :=
  match s.limit with
  | some n => if n = 0 then none else some ("LIMIT " ++ Decimal.text n)
  | none => none

/-! ## Templates -/

def pieces (s : Statement) : List (Option String) :=
  match s.action with
  | .select =>
    [some "SELECT", some s.columns, some "FROM", some (Identifier.quote s.table),
      s.condition?, s.order?, s.limit?]
  | .insert =>
    [some "INSERT", some "INTO", some (Identifier.quote s.table), some s.fieldNames,
      some "VALUES", some s.fieldPlaceholders]
  | .update =>
    [some "UPDATE", some (Identifier.quote s.table), some "SET", some s.assignments,
      s.condition?, s.order?, s.limit?]
  | .delete =>
    [some "DELETE", some "FROM", some (Identifier.quote s.table),
      s.condition?, s.order?, s.limit?]

def text (s : Statement) : String := (Fragments.ofPieces s.pieces).text

end NamedSql.Statement
