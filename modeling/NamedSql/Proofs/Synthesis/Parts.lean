import NamedSql.Synthesizer

namespace NamedSql

structure Clause.Shape where
  glue : Glue
  field : String
  condition : String
  deriving DecidableEq

def Clause.shape (c : Clause) : Clause.Shape := ⟨c.glue, c.field, c.condition⟩

def Clause.Shape.text (h : Clause.Shape) : String :=
  h.glue.lead ++ Identifier.quote h.field ++ h.condition ++ placeholder h.field

theorem Clause.text_shape (c : Clause) : c.shape.text = c.text := rfl

namespace Statement

def shownColumns (s : Statement) : List String :=
  if s.selectFields = [] then ["*"] else s.selectFields

/-- Statements of one action that agree on every part its template has a place for. -/
structure ShowSame (s t : Statement) : Prop where
  action : s.action = t.action
  table : s.table = t.table
  columns : s.action = .select → s.shownColumns = t.shownColumns
  fields : s.action.writesFields → s.fields.names = t.fields.names
  clauses : s.action.filtersRows → s.clauses.map Clause.shape = t.clauses.map Clause.shape
  orderBy : s.action.filtersRows → s.orderBy = t.orderBy
  direction : s.action.filtersRows → s.orderBy ≠ [] → s.direction = t.direction
  limit : s.action.filtersRows → s.limit.getD 0 = t.limit.getD 0

theorem columns_eq (s : Statement) : s.columns = Identifier.quoteList s.shownColumns := by
  unfold columns shownColumns
  by_cases empty : s.selectFields = []
  · simp [empty, Identifier.quoteList, Identifier.quote_wildcard]
  · rw [if_neg empty, if_neg empty]

theorem limit?_eq (s : Statement) :
    s.limit? = if s.limit.getD 0 = 0 then none
      else some ("LIMIT " ++ Decimal.text (s.limit.getD 0)) := by
  unfold limit?
  cases s.limit <;> rfl

variable {s t : Statement}

theorem condition?_eq_of_shape (shapes : s.clauses.map Clause.shape = t.clauses.map Clause.shape) :
    s.condition? = t.condition? := by
  have texts : s.clauses.map Clause.text = t.clauses.map Clause.text := by
    have := congrArg (List.map Clause.Shape.text) shapes
    simpa only [List.map_map, Function.comp_def, Clause.text_shape] using this
  have empty : s.clauses = [] ↔ t.clauses = [] := by
    rw [← List.map_eq_nil_iff, shapes, List.map_eq_nil_iff]
  simp only [condition?, texts, empty]

theorem order?_eq_of_same (fields : s.orderBy = t.orderBy)
    (direction : s.orderBy ≠ [] → s.direction = t.direction) : s.order? = t.order? := by
  unfold order?
  by_cases empty : s.orderBy = []
  · rw [if_pos empty, if_pos (fields ▸ empty)]
  · rw [if_neg empty, if_neg (fields ▸ empty), fields, direction empty]

theorem text_eq_of_showSame (same : s.ShowSame t) : s.text = t.text := by
  have condition (filters : s.action.filtersRows) : s.condition? = t.condition? :=
    condition?_eq_of_shape (same.clauses filters)
  have order (filters : s.action.filtersRows) : s.order? = t.order? :=
    order?_eq_of_same (same.orderBy filters) (same.direction filters)
  have limit (filters : s.action.filtersRows) : s.limit? = t.limit? := by
    rw [limit?_eq, limit?_eq, same.limit filters]
  have pieces : s.pieces = t.pieces := by
    unfold Statement.pieces
    rw [← same.action, same.table]
    cases action : s.action with
    | select =>
        have filters : s.action.filtersRows := by rw [action]; rfl
        rw [condition filters, order filters, limit filters, columns_eq, columns_eq,
          same.columns action]
    | insert =>
        have writes : s.action.writesFields := by rw [action]; rfl
        simp only [fieldNames, fieldPlaceholders, same.fields writes]
    | update =>
        have filters : s.action.filtersRows := by rw [action]; rfl
        have writes : s.action.writesFields := by rw [action]; rfl
        simp only [condition filters, order filters, limit filters, assignments,
          same.fields writes]
    | delete =>
        have filters : s.action.filtersRows := by rw [action]; rfl
        rw [condition filters, order filters, limit filters]
  rw [text, text, pieces]

end Statement
end NamedSql
