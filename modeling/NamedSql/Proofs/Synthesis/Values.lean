import NamedSql.Proofs.Synthesis.Parts
import NamedSql.Proofs.Synthesis.Registry

namespace NamedSql
namespace Statement

/-- Statements that differ in the values of fields and clauses at most. -/
structure Alike (s t : Statement) : Prop where
  action : s.action = t.action
  table : s.table = t.table
  selectFields : s.selectFields = t.selectFields
  fields : s.fields.names = t.fields.names
  clauses : s.clauses.map Clause.shape = t.clauses.map Clause.shape
  orderBy : s.orderBy = t.orderBy
  direction : s.direction = t.direction
  limit : s.limit = t.limit

namespace Alike
variable {s t : Statement}

theorem showSame (alike : s.Alike t) : s.ShowSame t where
  action := alike.action
  table := alike.table
  columns := fun _ => by rw [shownColumns, shownColumns, alike.selectFields]
  fields := fun _ => alike.fields
  clauses := fun _ => alike.clauses
  orderBy := fun _ => alike.orderBy
  direction := fun _ _ => alike.direction
  limit := fun _ => by rw [alike.limit]

theorem visitedFields (alike : s.Alike t) : s.visitedFields = t.visitedFields := by
  have fields : s.clauses.map Clause.field = t.clauses.map Clause.field := by
    have := congrArg (List.map Clause.Shape.field) alike.clauses
    simpa only [List.map_map, Function.comp_def, Clause.shape] using this
  rw [Statement.visitedFields, Statement.visitedFields, alike.action, alike.fields, fields]

theorem isEmpty_fields (alike : s.Alike t) : s.fields.isEmpty = t.fields.isEmpty := by
  have sizes : s.fields.toList.length = t.fields.toList.length := by
    simpa [Entries.names] using congrArg List.length alike.fields
  rw [Entries.isEmpty, Entries.isEmpty, Bool.eq_iff_iff, List.isEmpty_iff_length_eq_zero,
    List.isEmpty_iff_length_eq_zero, sizes]

theorem render (alike : s.Alike t) : s.render = t.render := by
  rw [Statement.render, Statement.render, alike.action, alike.isEmpty_fields,
    text_eq_of_showSame alike.showSame]

end Alike
end Statement

theorem Synthesizer.synthesize_of_alike {s t : Statement} (alike : s.Alike t) (x y : Synthesizer)
    (q r : Registry) :
    (x.synthesize s q).result = (y.synthesize t r).result ∧
    (q.names = r.names →
      (x.synthesize s q).registry.names = (y.synthesize t r).registry.names) := by
  have results : (x.synthesize s q).result = (y.synthesize t r).result := by
    rw [result_synthesize, result_synthesize, alike.render]
  refine ⟨results, ?_⟩
  intro names
  cases written : (x.synthesize s q).result with
  | ok sql =>
      rw [names_synthesize written, names_synthesize (results ▸ written), alike.visitedFields,
        names]
  | error e =>
      have failed : t.render = .error e := by
        rw [← alike.render, ← result_synthesize x s q, written]
      rw [registry_synthesize_of_error (alike.render ▸ failed),
        registry_synthesize_of_error failed, names]

def Statement.filledWith (value : Scalar) : Statement where
  action := .update
  table := "users"
  fields := ⟨[("name", value), ("id", value)]⟩
  clauses := [⟨.none, "id", "=", value⟩, ⟨.or, "name", " LIKE ", value⟩]
  orderBy := ["id"]

theorem Synthesizer.synthesize_of_alike_filledWith :
    let s := Statement.filledWith (.text "x`=:id; DROP TABLE users --")
    let t := Statement.filledWith .null
    let x : Synthesizer := { config := { maxLoggedLength := some 3 } }
    let q : Registry := ⟨[(":name", .int 1)]⟩
    let r : Registry := ⟨[(":name", .text ":id")]⟩
    s ≠ t ∧ (x.synthesize s q).result = (synthesize {} t r).result ∧
      (x.synthesize s q).registry.names = (synthesize {} t r).registry.names := by
  intro s t x q r
  have alike : s.Alike t := ⟨rfl, rfl, rfl, rfl, rfl, rfl, rfl, rfl⟩
  obtain ⟨results, names⟩ := synthesize_of_alike alike x {} q r
  refine ⟨?_, results, names rfl⟩
  intro same
  have fields := congrArg Statement.fields same
  cases fields

end NamedSql
