import NamedSql.Proofs.Query.Handle

namespace NamedSql

structure AnyQuery.Invariant (q : AnyQuery) : Prop where
  action : q.statement.action = q.action
  fetchable : q.statement.isFetchable ↔ q.action = .select
  select : q.action = .select → q.statement.fields = ∅
  insert : q.action = .insert → q.statement.selectFields = [] ∧ q.statement.clauses = [] ∧
    q.statement.orderBy = [] ∧ q.statement.direction = "ASC" ∧ q.statement.limit = none
  update : q.action = .update → q.statement.selectFields = []
  delete : q.action = .delete → q.statement.selectFields = [] ∧ q.statement.fields = ∅
  fields : q.statement.fields.names.Nodup
  registry : q.registry.names.Nodup
  visited : ∀ name ∈ q.registry.names, ∃ field ∈ q.statement.visitedFields, name = placeholder field

theorem Action.isFetchable_iff (a : Action) : a.isFetchable ↔ a = .select := by
  cases a <;> simp [isFetchable]

theorem AnyQuery.Kept.invariant {q : AnyQuery} (kept : q.Kept) : q.Invariant where
  action := kept.action
  fetchable := by
    rw [Statement.isFetchable, kept.fetchable]
    exact q.action.isFetchable_iff
  select := by
    intro select
    exact kept.parts .fields (by simp [Component.Offered, select, Action.writesFields])
  insert := by
    intro insert
    have unfiltered : ¬q.action.filtersRows := by simp [insert, Action.filtersRows]
    have unselected : ¬q.action = .select := by simp [insert]
    exact ⟨kept.parts .selectFields unselected, kept.parts .clauses unfiltered,
      kept.parts .orderBy unfiltered, kept.parts .direction unfiltered,
      kept.parts .limit unfiltered⟩
  update := by
    intro update
    exact kept.parts .selectFields (by simp [Component.Offered, update])
  delete := by
    intro delete
    exact ⟨kept.parts .selectFields (by simp [Component.Offered, delete]),
      kept.parts .fields (by simp [Component.Offered, delete, Action.writesFields])⟩
  fields := kept.fields
  registry := kept.fits.distinct
  visited := by
    intro name mem
    obtain ⟨field, visited, rfl⟩ := List.mem_map.mp (kept.fits.visited mem)
    exact ⟨field, visited, rfl⟩

namespace Handle

theorem invariant_of_leads {b h : Handle} {given : List (String × Scalar)} (fresh : Fresh b)
    (leads : Leads b given h) :
    h.query.Invariant ∧ h.query.action = b.query.action ∧
      h.sql.2.query.statement = h.query.statement := by
  obtain ⟨kept, action⟩ := kept_leads fresh leads
  refine ⟨kept.invariant, action, ?_⟩
  rw [h.sql_eq.2]
  rfl

theorem invariant_of_leads_rewrapped :
    let first : Query .update := ({} : Query .update).call (.setField "a" .null rfl)
    let second := first.sql.2.call (.filter .none "b" "=" (.int 1) rfl)
    let last := Handle.any second.wrap.sql.2
    last.query.Invariant ∧ last.query.registry.names = [":a", ":b"] := by
  intro first second last
  have fresh : Fresh (.any ({} : Query .update).wrap) := @Fresh.named {} "UpDate" _ rfl
  have opened : Leads (.any ({} : Query .update).wrap) [] (.typed ({} : Query .update)) :=
    .step .refl (.unwrap (AnyQuery.as?_wrap _))
  have written := (opened.step (.call _ (.setField "a" .null rfl))).step (.sql _)
  have compared := written.step (.call _ (.filter .none "b" "=" (.int 1) rfl))
  have leads := (compared.step (.wrap _)).step (.sql _)
  exact ⟨(invariant_of_leads fresh leads).1, by decide⟩

end Handle
end NamedSql
