import Mathlib.Data.Finset.Card
import Mathlib.Data.Finset.Image
import NamedSql.Proofs.Entries.Writes
import NamedSql.Synthesizer

namespace NamedSql

/-- The fields that the action's template shows as placeholders, from left to right. -/
def Statement.visitedFields (s : Statement) : List String :=
  (if s.action.writesFields then s.fields.names else []) ++
    if s.action.filtersRows then s.clauses.map Clause.field else []

theorem Statement.names_visits (s : Statement) :
    s.visits.map Prod.fst = s.visitedFields.map placeholder := by
  have fields : s.fieldVisits.map Prod.fst = s.fields.names.map placeholder := by
    simp [fieldVisits, Entries.names, Function.comp_def]
  have clauses : s.clauseVisits.map Prod.fst = (s.clauses.map Clause.field).map placeholder := by
    simp [clauseVisits, Function.comp_def]
  unfold visits visitedFields
  cases s.action <;> simp [Action.writesFields, Action.filtersRows, fields, clauses]

namespace Synthesizer

theorem registry_synthesize_of_result {x : Synthesizer} {s : Statement} {r : Registry}
    {sql : String} (ok : (x.synthesize s r).result = .ok sql) :
    (x.synthesize s r).registry = r.extend s.visits := by
  rw [result_synthesize] at ok
  exact registry_synthesize_of_ok ok x r

theorem names_synthesize {x : Synthesizer} {s : Statement} {r : Registry} {sql : String}
    (ok : (x.synthesize s r).result = .ok sql) :
    (x.synthesize s r).registry.names = r.names ++
      ((s.visitedFields.map placeholder).filter fun name => name ∉ r.names).eraseDups := by
  rw [registry_synthesize_of_result ok, Entries.names_extend, s.names_visits]

theorem size_synthesize_empty {x : Synthesizer} {s : Statement} {sql : String}
    (ok : (x.synthesize s ∅).result = .ok sql) :
    (x.synthesize s ∅).registry.size = s.visitedFields.toFinset.card := by
  have distinct : (x.synthesize s ∅).registry.names.Nodup := by
    rw [registry_synthesize_of_result ok]
    exact Entries.nodup_names_ofList s.visits
  have names : (x.synthesize s ∅).registry.names.toFinset =
      s.visitedFields.toFinset.image placeholder := by
    ext name
    simp [names_synthesize ok]
  rw [← Entries.length_names, ← List.toFinset_card_of_nodup distinct, names]
  exact Finset.card_image_of_injective _ fun _ _ => placeholder_injective

theorem registry_synthesize {x : Synthesizer} {s : Statement} {r : Registry} {sql : String}
    (distinct : r.names.Nodup) (ok : (x.synthesize s r).result = .ok sql) :
    let after := (x.synthesize s r).registry
    let visited := s.visits.map Prod.fst
    after.names = r.names ++ (visited.filter fun name => name ∉ r.names).eraseDups ∧
    after.names.Nodup ∧
    (∀ earlier name value later, s.visits = earlier ++ (name, value) :: later →
      name ∉ later.map Prod.fst → after.get? name = some value) ∧
    (∀ name, name ∉ visited → after.get? name = r.get? name) ∧
    (r = ∅ → after.size = s.visitedFields.toFinset.card) := by
  intro after visited
  have extended : after = r.extend s.visits := registry_synthesize_of_result ok
  refine ⟨?_, ?_, ?_, ?_, ?_⟩
  · rw [extended, Entries.names_extend]
  · rw [extended]
    exact Entries.nodup_names_extend distinct s.visits
  · intro earlier name value later split last
    rw [extended, split]
    exact Entries.get?_extend_of_last last r earlier value
  · intro name unvisited
    rw [extended]
    exact Entries.get?_extend_of_notMem unvisited r
  · rintro rfl
    exact size_synthesize_empty ok

def overlapping : Statement where
  action := .update
  table := "users"
  fields := ⟨[("status", .text "new"), ("age", .int 4)]⟩
  clauses := [⟨.none, "status", "=", .text "old"⟩, ⟨.and, "id", ">", .int 1⟩,
    ⟨.or, "id", "<", .null⟩]

theorem registry_synthesize_overlapping :
    let r : Registry := ⟨[(":id", .bool true), (":kept", .text "here")]⟩
    let after := (synthesize {} overlapping r).registry
    after.names = [":id", ":kept", ":status", ":age"] ∧
    after.get? ":status" = some (.text "old") ∧ after.get? ":id" = some .null ∧
    after.get? ":kept" = some (.text "here") := by
  intro r after
  have distinct : r.names.Nodup := by decide
  have ok : (synthesize {} overlapping r).result = .ok
      ("UPDATE `users` SET `status`=:status,`age`=:age " ++
        "WHERE `status`=:status AND `id`>:id OR `id`<:id") := by rfl
  obtain ⟨names, -, last, kept, -⟩ := registry_synthesize distinct ok
  have status := last [(":status", .text "new"), (":age", .int 4)] ":status" (.text "old")
    [(":id", .int 1), (":id", .null)] rfl (by decide)
  have id := last [(":status", .text "new"), (":age", .int 4), (":status", .text "old"),
    (":id", .int 1)] ":id" .null [] rfl (by decide)
  exact ⟨names.trans (by decide), status, id, kept ":kept" (by decide)⟩

end Synthesizer
end NamedSql
