import NamedSql.Statement.Template

/-!
# Writing a statement

A statement is written from left to right, and the value of a placeholder is registered when the
placeholder is written. `run_write` says that what comes out is the text of the template and a
registry that has gone through the statement's visits.
-/

namespace NamedSql

def bindField (field : String) (value : Scalar) : StateM Registry String := do
  modify fun r => r.register field value
  return placeholder field

def Clause.write (c : Clause) : StateM Registry String := do
  let name ← bindField c.field c.value
  return c.glue.lead ++ Identifier.quote c.field ++ c.condition ++ name

namespace Statement

def writeAssignment (entry : String × Scalar) : StateM Registry String := do
  let name ← bindField entry.1 entry.2
  return Identifier.quote entry.1 ++ "=" ++ name

def writeCondition? (s : Statement) : StateM Registry (Option String) :=
  if s.clauses = [] then return none
  else do
    let clauses ← s.clauses.mapM Clause.write
    return some ("WHERE " ++ " ".intercalate clauses)

def write (s : Statement) : StateM Registry String :=
  match s.action with
  | .select => do
    let condition ← s.writeCondition?
    return (Fragments.ofPieces
      [some "SELECT", some s.columns, some "FROM", some (Identifier.quote s.table),
        condition, s.order?, s.limit?]).text
  | .insert => do
    let placeholders ← s.fields.toList.mapM fun e => bindField e.1 e.2
    return (Fragments.ofPieces
      [some "INSERT", some "INTO", some (Identifier.quote s.table), some s.fieldNames,
        some "VALUES", some ("(" ++ ",".intercalate placeholders ++ ")")]).text
  | .update => do
    let assignments ← s.fields.toList.mapM writeAssignment
    let condition ← s.writeCondition?
    return (Fragments.ofPieces
      [some "UPDATE", some (Identifier.quote s.table), some "SET",
        some (",".intercalate assignments), condition, s.order?, s.limit?]).text
  | .delete => do
    let condition ← s.writeCondition?
    return (Fragments.ofPieces
      [some "DELETE", some "FROM", some (Identifier.quote s.table),
        condition, s.order?, s.limit?]).text

/-- Writes a statement that has the fields its template needs; another one is refused before
anything is registered. -/
def write? (s : Statement) : StateM Registry (Except Error String) :=
  if s.action.writesFields && s.fields.isEmpty then return .error (.missingFields s.action)
  else do
    let sql ← s.write
    return .ok sql

/-! ## What writing gives -/

variable {α β : Type}

theorem run_pure (a : α) (r : Registry) : (pure a : StateM Registry α).run r = (a, r) := rfl

theorem run_bind (x : StateM Registry α) (f : α → StateM Registry β) (r : Registry) :
    (x >>= f).run r = (f (x.run r).1).run (x.run r).2 := rfl

theorem run_mapM {write : α → StateM Registry String} (text : α → String)
    (visit : α → String × Scalar)
    (step : ∀ a (r : Registry), (write a).run r = (text a, r.set (visit a).1 (visit a).2))
    (items : List α) (r : Registry) :
    (items.mapM write).run r = (items.map text, r.extend (items.map visit)) := by
  induction items generalizing r with
  | nil => rfl
  | cons a as ih =>
      rw [List.mapM_cons, run_bind, run_bind, run_pure, step, ih]
      rfl

theorem run_bindField (e : String × Scalar) (r : Registry) :
    (bindField e.1 e.2).run r = (placeholder e.1, r.register e.1 e.2) := rfl

theorem run_writeAssignment (e : String × Scalar) (r : Registry) :
    (writeAssignment e).run r = (assignment e.1, r.register e.1 e.2) := rfl

theorem run_writeClause (c : Clause) (r : Registry) :
    c.write.run r = (c.text, r.register c.field c.value) := rfl

theorem run_write_clauses (s : Statement) (r : Registry) :
    (s.clauses.mapM Clause.write).run r = (s.clauses.map Clause.text, r.extend s.clauseVisits) :=
  run_mapM Clause.text (fun c => (placeholder c.field, c.value)) run_writeClause s.clauses r

theorem run_write_fields {write : String × Scalar → StateM Registry String} {text : String → String}
    (step : ∀ e (r : Registry), (write e).run r = (text e.1, r.register e.1 e.2))
    (s : Statement) (r : Registry) :
    (s.fields.toList.mapM write).run r = (s.fields.names.map text, r.extend s.fieldVisits) := by
  rw [run_mapM (fun e => text e.1) (fun e => (placeholder e.1, e.2)) step]
  simp [Entries.names, fieldVisits, Function.comp_def]

theorem run_writeCondition? (s : Statement) (r : Registry) :
    s.writeCondition?.run r = (s.condition?, r.extend s.clauseVisits) := by
  unfold writeCondition? condition?
  by_cases empty : s.clauses = []
  · rw [if_pos empty, if_pos empty, run_pure, clauseVisits, empty]
    rfl
  · rw [if_neg empty, if_neg empty, run_bind, run_write_clauses, run_pure]

theorem run_write (s : Statement) (r : Registry) :
    s.write.run r = (s.text, r.extend s.visits) := by
  unfold write text pieces visits
  cases s.action with
  | select =>
      rw [run_bind, run_writeCondition?, run_pure]
      rfl
  | insert =>
      rw [run_bind, run_write_fields run_bindField, run_pure]
      simp [fieldPlaceholders, Action.writesFields, Action.filtersRows]
  | update =>
      rw [run_bind, run_write_fields run_writeAssignment, run_bind,
        run_writeCondition?, run_pure, ← Entries.extend_append]
      rfl
  | delete =>
      rw [run_bind, run_writeCondition?, run_pure]
      rfl

theorem run_write?_of_missing {s : Statement}
    (missing : (s.action.writesFields && s.fields.isEmpty) = true) (r : Registry) :
    s.write?.run r = (.error (.missingFields s.action), r) := by
  rw [write?, if_pos missing]
  rfl

theorem run_write?_of_given {s : Statement}
    (given : (s.action.writesFields && s.fields.isEmpty) = false) (r : Registry) :
    s.write?.run r = (.ok s.text, r.extend s.visits) := by
  rw [write?, if_neg (by simp [given]), run_bind, run_write]
  rfl

end Statement
end NamedSql
