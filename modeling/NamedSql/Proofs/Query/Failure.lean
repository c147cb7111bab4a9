import NamedSql.Proofs.Query.Handle

namespace NamedSql

theorem Action.writesFields_iff (a : Action) : a.writesFields ↔ a = .insert ∨ a = .update := by
  cases a <;> simp [writesFields]

/-! ## A statement alone -/

namespace Statement

theorem render_eq_error_iff {s : Statement} {e : Error} :
    s.render = .error e ↔ (s.action = .insert ∨ s.action = .update) ∧ s.fields.isEmpty ∧
      e = .missingFields s.action := by
  rw [← Action.writesFields_iff, render]
  split
  · rename_i missing
    rw [Bool.and_eq_true] at missing
    simp [missing.1, missing.2, eq_comm]
  · rename_i given
    rw [Bool.and_eq_true, not_and] at given
    constructor
    · intro failed
      cases failed
    · rintro ⟨writes, missing, -⟩
      exact absurd missing (given writes)

theorem render_eq_ok {s : Statement} (given : ¬s.fields.isEmpty) : s.render = .ok s.text := by
  rw [render, if_neg]
  rw [Bool.and_eq_true]
  exact fun missing => given missing.2

end Statement

/-! ## A builder after a run -/

namespace Handle
variable {b h : Handle} {given : List (String × Scalar)}

theorem result_sql (h : Handle) : h.sql.1.result = h.query.statement.render := by
  rw [h.sql_eq.1]
  exact Synthesizer.result_synthesize _ _ _

theorem result_build (h : Handle) : h.build.1 = h.query.statement.render.map fun sql =>
    ⟨sql, h.sql.1.registry⟩ := by
  rw [h.build_eq_query, h.sql_eq.1, ← Synthesizer.result_synthesize h.query.query.synthesizer
    h.query.statement h.query.registry]
  rfl

theorem render_eq_error_iff_of_leads (fresh : Fresh b) (leads : Leads b given h) {e : Error} :
    h.query.statement.render = .error e ↔
      (h.query.action = .insert ∨ h.query.action = .update) ∧ given = [] ∧
        e = .missingFields h.query.action := by
  rw [Statement.render_eq_error_iff, (kept_leads fresh leads).1.action, fields_leads fresh leads,
    Entries.isEmpty_ofList]

theorem sql_of_error {e : Error} (failed : h.sql.1.result = .error e) :
    h.sql.1.registry = h.query.registry ∧ h.sql.2 = h := by
  rw [result_sql] at failed
  have untouched : h.sql.1.registry = h.query.registry := by
    rw [h.sql_eq.1]
    exact Synthesizer.registry_synthesize_of_error failed _ _
  refine ⟨untouched, ?_⟩
  cases h with
  | typed q =>
      change Handle.typed { q with registry := q.sql.1.registry } = .typed q
      rw [show q.sql.1.registry = q.registry from untouched]
  | any q =>
      change Handle.any { q with query := { q.query with registry := q.query.sql.1.registry } } = _
      rw [show q.query.sql.1.registry = q.query.registry from untouched]

theorem fails_iff_of_leads (fresh : Fresh b) (leads : Leads b given h) :
    (∀ e, h.sql.1.result = .error e ↔
      (h.query.action = .insert ∨ h.query.action = .update) ∧ given = [] ∧
        e = .missingFields h.query.action) ∧
    (∀ e, h.build.1 = .error e ↔
      (h.query.action = .insert ∨ h.query.action = .update) ∧ given = [] ∧
        e = .missingFields h.query.action) ∧
    (∀ e, h.sql.1.result = .error e → h.sql.1.registry = h.query.registry ∧ h.sql.2 = h) ∧
    (given ≠ [] → ∀ more later, Leads h more later →
      (∃ sql, later.sql.1.result = .ok sql) ∧ ∃ built, later.build.1 = .ok built) ∧
    (∀ (x : Synthesizer) (s : Statement) (r : Registry),
      (∀ e, (x.synthesize s r).result = .error e ↔
        (s.action = .insert ∨ s.action = .update) ∧ s.fields.isEmpty ∧
          e = .missingFields s.action) ∧
      (∀ e, (x.synthesize s r).result = .error e → (x.synthesize s r).registry = r)) := by
  refine ⟨?_, ?_, ?_, ?_, ?_⟩
  · intro e
    rw [result_sql]
    exact render_eq_error_iff_of_leads fresh leads
  · intro e
    rw [← render_eq_error_iff_of_leads fresh leads, result_build]
    cases h.query.statement.render <;> simp [Except.map]
  · exact fun e failed => sql_of_error failed
  · intro supplied more later further
    have fields := fields_leads fresh (leads.trans further)
    have filled : ¬later.query.statement.fields.isEmpty := by
      rw [fields, Entries.isEmpty_ofList]
      exact List.append_ne_nil_of_left_ne_nil supplied more
    have written := Statement.render_eq_ok filled
    refine ⟨⟨_, (result_sql later).trans written⟩, ?_⟩
    rw [result_build, written]
    exact ⟨_, rfl⟩
  · intro x s r
    constructor
    · intro e
      rw [Synthesizer.result_synthesize]
      exact Statement.render_eq_error_iff
    · intro e failed
      rw [Synthesizer.result_synthesize] at failed
      exact Synthesizer.registry_synthesize_of_error failed x r

theorem fails_iff_of_leads_insert :
    let bare : Query .insert := (({} : Query .insert).call (.set [] rfl)).call (.table "t")
    let filled := bare.call (.setField "a" .null rfl)
    (Handle.any bare.wrap).sql.1.result = .error (.missingFields .insert) ∧
    (Handle.any bare.wrap).build.1 = .error (.missingFields .insert) ∧
    (Handle.any bare.wrap).sql.2 = .any bare.wrap ∧
    ∃ sql, (Handle.typed (filled.call (.set [] rfl))).sql.1.result = .ok sql := by
  intro bare filled
  have fresh : Fresh (.any ({} : Query .insert).wrap) := @Fresh.named {} "INSERT" _ rfl
  have opened : Leads (.any ({} : Query .insert).wrap) [] (.typed ({} : Query .insert)) :=
    .step .refl (.unwrap (AnyQuery.as?_wrap _))
  have told : Leads _ [] (.typed bare) :=
    (opened.step (.call _ (.set [] rfl))).step (.call _ (.table "t"))
  obtain ⟨refused, unbuilt, unchanged, -⟩ := fails_iff_of_leads fresh (told.step (.wrap bare))
  have supplied : Leads _ [("a", .null)] (.typed filled) :=
    told.step (.call bare (.setField "a" .null rfl))
  obtain ⟨-, -, -, written, -⟩ := fails_iff_of_leads fresh supplied
  have error := (refused _).mpr ⟨.inl rfl, rfl, rfl⟩
  exact ⟨error, (unbuilt _).mpr ⟨.inl rfl, rfl, rfl⟩, (unchanged _ error).2,
    (written (by simp) _ _ (.step .refl (.call filled (.set [] rfl)))).1⟩

end Handle
end NamedSql
