import NamedSql.Proofs.Entries.History
import NamedSql.Proofs.Query.Failure
import NamedSql.Proofs.Synthesis.Layout

namespace NamedSql
open Identifier

/-! ## The fields of a run -/

def Step.supplied {a : Action} : Step a → List (String × Scalar)
  | .call c => c.supplied
  | .sql => []

namespace Query
variable {a : Action}

def supplied (steps : List (Step a)) : List (String × Scalar) := steps.flatMap Step.supplied

theorem fields_step (q : Query a) (step : Step a) :
    (q.step step).statement.fields = q.statement.fields.extend step.supplied := by
  cases step with
  | call c => exact c.fields_apply q.statement
  | sql => rfl

theorem fields_run (q : Query a) (steps : List (Step a)) :
    (q.run steps).statement.fields = q.statement.fields.extend (supplied steps) := by
  induction steps generalizing q with
  | nil => rfl
  | cons step steps ih =>
      refine (ih (q.step step)).trans ?_
      rw [fields_step, ← Entries.extend_append]
      rfl

end Query

/-! ## An insert alone -/

namespace Statement
variable {s : Statement}

theorem text_insert (action : s.action = .insert) :
    s.text = "INSERT INTO " ++ quote s.table ++
      " (" ++ ",".intercalate (s.fields.names.map quote) ++
      ") VALUES (" ++ ",".intercalate (s.fields.names.map placeholder) ++ ")" := by
  rw [← String.toList_inj, toList_text_insert action, ← toList_quoteList, quoteList]
  simp only [String.toList_append, List.append_assoc]
  rfl

theorem extend_visits_insert (action : s.action = .insert) (distinct : s.fields.names.Nodup) :
    (Entries.extend ∅ s.visits).toList = s.fields.toList.map fun e => (placeholder e.1, e.2) := by
  have visits : s.visits = s.fieldVisits := by
    simp [Statement.visits, action, Action.writesFields, Action.filtersRows]
  have names : s.visits.map Prod.fst = s.fields.names.map placeholder := by
    rw [names_visits, visitedFields, action]
    simp [Action.writesFields, Action.filtersRows]
  have apart : ((∅ : Registry).names ++ s.visits.map Prod.fst).Nodup := by
    rw [names]
    exact distinct.map fun _ _ => placeholder_injective
  rw [Entries.extend_of_nodup apart, visits]
  rfl

end Statement

/-! ## An insert after a run -/

namespace Query

theorem aligned_insert (x : Synthesizer) (steps : List (Step .insert))
    (given : supplied steps ≠ []) :
    let q := (x.query .insert).run steps
    ∃ entries : List (String × Scalar),
      entries.map Prod.fst = ((supplied steps).map Prod.fst).eraseDups ∧
      (∀ e ∈ entries, Entries.lastWrite? (supplied steps) e.1 = some e.2) ∧
      q.sql.1.result = .ok ("INSERT INTO " ++ quote q.statement.table ++
        " (" ++ ",".intercalate (entries.map fun e => quote e.1) ++
        ") VALUES (" ++ ",".intercalate (entries.map fun e => ":" ++ e.1) ++ ")") ∧
      q.sql.2.registry.toList = entries.map fun e => (":" ++ e.1, e.2) := by
  intro q
  have fields : q.statement.fields = .ofList (supplied steps) := fields_run _ steps
  have action : q.statement.action = .insert := action_run _ steps
  have distinct : q.statement.fields.names.Nodup := fields ▸ Entries.nodup_names_ofList _
  have written : q.statement.render = .ok q.statement.text :=
    Statement.render_eq_ok (by rwa [fields, Entries.isEmpty_ofList])
  have fits : q.statement.Fits q.registry := fits_run (Statement.fits_empty _) steps
  refine ⟨q.statement.fields.toList, ?_, ?_, ?_, ?_⟩
  · rw [fields]
    exact Entries.names_ofList _
  · intro e mem
    rw [← Entries.get?_ofList, ← fields]
    exact Entries.get?_of_mem distinct mem
  · rw [sql, Synthesizer.result_synthesize, written, Statement.text_insert action, Entries.names,
      List.map_map, List.map_map]
    rfl
  · -- The fields that were registered before are among those that are written now.
    have fresh : q.sql.2.registry = Entries.extend ∅ q.statement.visits := by
      rw [← Synthesizer.registry_synthesize_of_ok written {}]
      exact fits.registry_synthesize_eq (Statement.fits_empty _) (by simp [action]) q.synthesizer {}
    rw [fresh, Statement.extend_visits_insert action distinct]
    rfl

theorem aligned_insert_rewritten :
    let steps : List (Step .insert) := [.call (.setField "b" (.int 1) rfl), .sql,
      .call (.set [("a", .null), ("b", .text "x")] rfl), .call (.table "t")]
    let q := (Synthesizer.query {} .insert).run steps
    supplied steps ≠ [] ∧ q.registry.toList = [(":b", .int 1)] ∧
      q.sql.1.result = .ok "INSERT INTO `t` (`b`,`a`) VALUES (:b,:a)" ∧
      q.sql.2.registry.toList = [(":b", .text "x"), (":a", .null)] := by
  intro steps q
  have given : supplied steps ≠ [] := by decide
  obtain ⟨entries, names, last, result, registry⟩ := aligned_insert {} steps given
  have same : entries = [("b", .text "x"), ("a", .null)] := by
    have bound : q.sql.2.registry.toList = [("b", .text "x"), ("a", .null)].map fun e =>
        (":" ++ e.1, e.2) := rfl
    refine (List.map_inj_right ?_).mp (registry.symm.trans bound)
    rintro ⟨f, v⟩ ⟨g, w⟩ same
    simpa using same
  subst same
  exact ⟨given, rfl, result, registry⟩

end Query
end NamedSql
