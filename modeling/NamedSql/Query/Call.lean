import NamedSql.Query

/-!
# Chain calls

What a builder can be told depends on its action: only a select picks fields, only an insert or an
update sets values, and an insert takes no clauses, order or limit. `Call a` holds the calls that a
builder of action `a` offers, so a run of a builder is a list, and `Query.run` replays it.
-/

namespace NamedSql

inductive Call (a : Action) where
  /-- Opens the chain of a delete and changes nothing. -/
  | start (deletes : a = .delete)
  | table (name : String)
  | selectField (field : String) (selects : a = .select)
  | select (fields : List String) (selects : a = .select)
  | setField (field : String) (value : Scalar) (writes : a.writesFields)
  | set (fields : List (String × Scalar)) (writes : a.writesFields)
  | filter (glue : Glue) (field condition : String) (value : Scalar) (filters : a.filtersRows)
  | clause (c : Clause) (filters : a.filtersRows)
  | orderByField (field : String) (filters : a.filtersRows)
  | orderBy (fields : List String) (filters : a.filtersRows)
  | direction (word : String) (filters : a.filtersRows)
  | limit (rows : Nat) (filters : a.filtersRows)

namespace Call
variable {a : Action}

def apply (s : Statement) : Call a → Statement
  | .start _ => s
  | .table name => s.setTable name
  | .selectField field _ => s.addSelectField field
  | .select fields _ => s.addSelectFields fields
  | .setField field value _ => s.setField field value
  | .set fields _ => s.setFields fields
  | .filter glue field condition value _ => s.addClause ⟨glue, field, condition, value⟩
  | .clause c _ => s.addClause c
  | .orderByField field _ => s.addOrderField field
  | .orderBy fields _ => s.addOrderFields fields
  | .direction word _ => s.setDirection word
  | .limit rows _ => s.setLimit rows

end Call

namespace Query
variable {a : Action}

def call (q : Query a) (c : Call a) : Query a := { q with statement := c.apply q.statement }

@[simp]
theorem statement_call (q : Query a) (c : Call a) :
    (q.call c).statement = c.apply q.statement := rfl

@[simp]
theorem registry_call (q : Query a) (c : Call a) : (q.call c).registry = q.registry := rfl

@[simp]
theorem synthesizer_call (q : Query a) (c : Call a) :
    (q.call c).synthesizer = q.synthesizer := rfl

/-! ## The calls by name -/

def table (q : Query a) (name : String) : Query a := q.call (.table name)

def selectField (q : Query a) (field : String) (selects : a = .select := by rfl) : Query a :=
  q.call (.selectField field selects)

def select (q : Query a) (fields : List String) (selects : a = .select := by rfl) : Query a :=
  q.call (.select fields selects)

def setField {α : Type} [Bindable α] (q : Query a) (field : String) (value : α)
    (writes : a.writesFields := by decide) : Query a :=
  q.call (.setField field (toScalar value) writes)

def set {α : Type} [Bindable α] (q : Query a) (fields : List (String × α))
    (writes : a.writesFields := by decide) : Query a :=
  q.call (.set (fields.map fun e => (e.1, toScalar e.2)) writes)

/-- Adds a comparison that nothing joins to the one before; usually the first. -/
def filter {α : Type} [Bindable α] (q : Query a) (field condition : String) (value : α)
    (filters : a.filtersRows := by decide) : Query a :=
  q.call (.filter .none field condition (toScalar value) filters)

def andFilter {α : Type} [Bindable α] (q : Query a) (field condition : String) (value : α)
    (filters : a.filtersRows := by decide) : Query a :=
  q.call (.filter .and field condition (toScalar value) filters)

def orFilter {α : Type} [Bindable α] (q : Query a) (field condition : String) (value : α)
    (filters : a.filtersRows := by decide) : Query a :=
  q.call (.filter .or field condition (toScalar value) filters)

def clause (q : Query a) (c : Clause) (filters : a.filtersRows := by decide) : Query a :=
  q.call (.clause c filters)

def orderByField (q : Query a) (field : String) (filters : a.filtersRows := by decide) : Query a :=
  q.call (.orderByField field filters)

def orderBy (q : Query a) (fields : List String) (filters : a.filtersRows := by decide) :
    Query a :=
  q.call (.orderBy fields filters)

def direction (q : Query a) (word : String) (filters : a.filtersRows := by decide) : Query a :=
  q.call (.direction word filters)

def limit (q : Query a) (rows : Nat) (filters : a.filtersRows := by decide) : Query a :=
  q.call (.limit rows filters)

theorem call_eq (q : Query a) (c : Call a) :
    q.call c = match c with
      | .start _ => q
      | .table name => q.table name
      | .selectField field selects => q.selectField field selects
      | .select fields selects => q.select fields selects
      | .setField field value writes => q.setField field value writes
      | .set fields writes => q.set fields writes
      | .filter .none field condition value filters => q.filter field condition value filters
      | .filter .and field condition value filters => q.andFilter field condition value filters
      | .filter .or field condition value filters => q.orFilter field condition value filters
      | .clause c filters => q.clause c filters
      | .orderByField field filters => q.orderByField field filters
      | .orderBy fields filters => q.orderBy fields filters
      | .direction word filters => q.direction word filters
      | .limit rows filters => q.limit rows filters := by
  cases c with
  | filter glue _ _ _ _ => cases glue <;> rfl
  | set fields writes =>
      have same : fields.map (fun e => (e.1, toScalar e.2)) = fields := fields.map_id
      exact congrArg (fun fields => q.call (.set fields writes)) same.symm
  | _ => rfl

end Query

/-! ## Runs -/

inductive Step (a : Action) where
  | call (c : Call a)
  | sql

namespace Query
variable {a : Action}

def step (q : Query a) : Step a → Query a
  | .call c => q.call c
  | .sql => q.sql.2

def run (q : Query a) (steps : List (Step a)) : Query a := steps.foldl step q

theorem run_append (q : Query a) (before after : List (Step a)) :
    q.run (before ++ after) = (q.run before).run after := by
  simp [run]

end Query
end NamedSql
