import NamedSql.Proofs.Entries.Extensional
import NamedSql.Proofs.Synthesis.Registry
import NamedSql.Query.Call

/-!
# Writing a builder early and often

A builder keeps the placeholders of every writing, and between two writings it is told more. What it
has been told to write or to compare stays (`Statement.Grows`), so its registry holds nothing that
the statement does not visit (`Statement.Fits`), and the next writing goes over all of it.

* `sql_run`: a writing gives the same as if there had been none before. Only the order of an
  update's placeholders may differ.
-/

namespace NamedSql
namespace Statement
variable {s t : Statement} {r : Registry}

/-! ## Growth -/

structure Grows (s t : Statement) : Prop where
  action : t.action = s.action
  fields : s.fields.names <+: t.fields.names
  clauses : s.clauses <+: t.clauses

namespace Grows

theorem visitedFields_subset (grows : s.Grows t) : s.visitedFields ⊆ t.visitedFields := by
  have clauses := (grows.clauses.map Clause.field).subset
  unfold visitedFields
  rw [grows.action]
  cases s.action with
  | insert => simpa [Action.writesFields, Action.filtersRows] using grows.fields.subset
  | update =>
      intro field mem
      rcases List.mem_append.mp mem with assigned | compared
      · exact List.mem_append_left _ (grows.fields.subset assigned)
      · exact List.mem_append_right _ (clauses compared)
  | select | delete => simpa [Action.writesFields, Action.filtersRows] using clauses

theorem visitedFields_prefix (grows : s.Grows t) (other : s.action ≠ .update) :
    s.visitedFields <+: t.visitedFields := by
  have clauses := grows.clauses.map Clause.field
  unfold visitedFields
  rw [grows.action]
  cases action : s.action with
  | insert => simpa [Action.writesFields, Action.filtersRows] using grows.fields
  | update => exact absurd action other
  | select | delete => simpa [Action.writesFields, Action.filtersRows] using clauses

theorem render_eq_error (grows : s.Grows t) {e : Error} (failed : t.render = .error e) :
    s.render = .error e := by
  unfold render at failed ⊢
  rw [← grows.action]
  split at failed
  · rename_i missing
    rw [Bool.and_eq_true] at missing
    have none : t.fields.names = [] := by
      simpa [Entries.isEmpty, Entries.names] using missing.2
    have before : s.fields.names = [] := List.prefix_nil.mp (none ▸ grows.fields)
    have empty : s.fields.isEmpty := by simpa [Entries.isEmpty, Entries.names] using before
    rw [if_pos (by simp [missing.1, empty]), failed]
  · cases failed

end Grows

theorem grows_apply {a : Action} (c : Call a) (s : Statement) : s.Grows (c.apply s) := by
  have written (es : List (String × Scalar)) : s.fields.names <+: (s.fields.extend es).names := by
    rw [Entries.names_extend]
    exact List.prefix_append _ _
  cases c with
  | setField field value _ => exact ⟨rfl, written [(field, value)], List.prefix_rfl⟩
  | set fields _ => exact ⟨rfl, written fields, List.prefix_rfl⟩
  | filter _ _ _ _ _ | clause _ _ => exact ⟨rfl, List.prefix_rfl, List.prefix_append _ _⟩
  | _ => exact ⟨rfl, List.prefix_rfl, List.prefix_rfl⟩

/-! ## The registry of a builder -/

structure Fits (s : Statement) (r : Registry) : Prop where
  distinct : r.names.Nodup
  visited : r.names ⊆ s.visitedFields.map placeholder
  order : s.action ≠ .update → r.names <+: (s.visitedFields.map placeholder).eraseDups
  empty : ∀ e, s.render = .error e → r = ∅

theorem fits_empty (s : Statement) : s.Fits ∅ where
  distinct := List.nodup_nil
  visited := List.nil_subset _
  order := fun _ => List.nil_prefix
  empty := fun _ _ => rfl

theorem Fits.of_grows (fits : s.Fits r) (grows : s.Grows t) : t.Fits r where
  distinct := fits.distinct
  visited := fun _ mem => List.map_subset placeholder grows.visitedFields_subset (fits.visited mem)
  order := by
    intro other
    rw [grows.action] at other
    obtain ⟨rest, split⟩ := (grows.visitedFields_prefix other).map placeholder
    rw [← split, List.eraseDups_append]
    exact (fits.order other).trans (List.prefix_append _ _)
  empty := fun e failed => fits.empty e (grows.render_eq_error failed)

theorem Fits.names_extend (fits : s.Fits r) (other : s.action ≠ .update) :
    (r.extend s.visits).names = (s.visitedFields.map placeholder).eraseDups := by
  rw [← s.names_visits]
  exact Entries.names_extend_of_prefix (s.names_visits ▸ fits.order other)

theorem Fits.mem_names_extend (fits : s.Fits r) {name : String} :
    name ∈ (r.extend s.visits).names ↔ name ∈ s.visitedFields.map placeholder := by
  rw [Entries.mem_names_extend, s.names_visits]
  exact or_iff_right_of_imp fun known => fits.visited known

theorem Fits.synthesize (fits : s.Fits r) (x : Synthesizer) :
    s.Fits (x.synthesize s r).registry := by
  cases written : s.render with
  | error e =>
      rwa [Synthesizer.registry_synthesize_of_error written]
  | ok sql =>
      rw [Synthesizer.registry_synthesize_of_ok written]
      refine ⟨Entries.nodup_names_extend fits.distinct _, ?_, ?_, ?_⟩
      · intro name mem
        exact fits.mem_names_extend.mp mem
      · intro other
        rw [fits.names_extend other]
      · intro e failed
        rw [written] at failed
        cases failed

/-! ## Two builders of one statement -/

theorem Fits.get?_extend {q : Registry} (fits : s.Fits q) {name : String}
    (mem : name ∈ (q.extend s.visits).names) :
    (q.extend s.visits).get? name = (r.extend s.visits).get? name :=
  Entries.get?_extend_congr (s.names_visits ▸ fits.mem_names_extend.mp mem) q r

theorem Fits.registry_synthesize_cases {q : Registry} (fitsQ : s.Fits q) (fitsR : s.Fits r)
    (x y : Synthesizer) :
    (x.synthesize s q).registry = (y.synthesize s r).registry ∨
    ((x.synthesize s q).registry = q.extend s.visits ∧
      (y.synthesize s r).registry = r.extend s.visits) := by
  cases written : s.render with
  | error e =>
      apply Or.inl
      rw [Synthesizer.registry_synthesize_of_error written,
        Synthesizer.registry_synthesize_of_error written, fitsQ.empty e written,
        fitsR.empty e written]
  | ok sql =>
      exact .inr ⟨Synthesizer.registry_synthesize_of_ok written x q,
        Synthesizer.registry_synthesize_of_ok written y r⟩

theorem Fits.registry_synthesize_perm {q : Registry} (fitsQ : s.Fits q) (fitsR : s.Fits r)
    (x y : Synthesizer) :
    (x.synthesize s q).registry.toList.Perm (y.synthesize s r).registry.toList := by
  rcases fitsQ.registry_synthesize_cases fitsR x y with same | ⟨one, other⟩
  · rw [same]
  · rw [one, other]
    refine Entries.perm_of_get? (Entries.nodup_names_extend fitsQ.distinct _)
      (Entries.nodup_names_extend fitsR.distinct _) ?_ fun name mem => fitsQ.get?_extend mem
    intro name
    rw [fitsQ.mem_names_extend, fitsR.mem_names_extend]

theorem Fits.registry_synthesize_eq {q : Registry} (fitsQ : s.Fits q) (fitsR : s.Fits r)
    (ordered : s.action ≠ .update) (x y : Synthesizer) :
    (x.synthesize s q).registry = (y.synthesize s r).registry := by
  rcases fitsQ.registry_synthesize_cases fitsR x y with same | ⟨one, other⟩
  · exact same
  · rw [one, other]
    refine Entries.eq_of_get? (Entries.nodup_names_extend fitsQ.distinct _) ?_
      fun name mem => fitsQ.get?_extend mem
    rw [fitsQ.names_extend ordered, fitsR.names_extend ordered]

end Statement

/-! ## Runs -/

def Step.isCall {a : Action} : Step a → Bool
  | .call _ => true
  | .sql => false

namespace Query
variable {a : Action} {q : Query a}

theorem fits_step (fits : q.statement.Fits q.registry) (step : Step a) :
    (q.step step).statement.Fits (q.step step).registry := by
  cases step with
  | call c => exact fits.of_grows (Statement.grows_apply c q.statement)
  | sql => exact fits.synthesize q.synthesizer

theorem fits_run (fits : q.statement.Fits q.registry) (steps : List (Step a)) :
    (q.run steps).statement.Fits (q.run steps).registry := by
  induction steps generalizing q with
  | nil => exact fits
  | cons step steps ih => exact ih (fits_step fits step)

theorem action_run (q : Query a) (steps : List (Step a)) :
    (q.run steps).statement.action = q.statement.action := by
  induction steps generalizing q with
  | nil => rfl
  | cons step steps ih =>
      refine (ih (q.step step)).trans ?_
      cases step with
      | call c => exact (Statement.grows_apply c q.statement).action
      | sql => rfl

theorem statement_run_filter {p : Query a} (same : p.statement = q.statement)
    (steps : List (Step a)) :
    (p.run steps).statement = (q.run (steps.filter Step.isCall)).statement := by
  induction steps generalizing p q with
  | nil => exact same
  | cons step steps ih =>
      cases step with
      | call c => exact ih (congrArg c.apply same)
      | sql => exact ih (p := p.sql.2) same

theorem sql_run (x y : Synthesizer) (steps : List (Step a)) :
    let last := ((x.query a).run steps).sql
    let once := ((y.query a).run (steps.filter Step.isCall)).sql
    last.1.result = once.1.result ∧
    (a ≠ .update → last.2.registry = once.2.registry) ∧
    last.2.registry.names.Nodup ∧ last.2.registry.toList.Perm once.2.registry.toList := by
  intro last once
  -- Being written changes no statement, and leaves a registry that the next writing goes over.
  have statement : ((x.query a).run steps).statement =
      ((y.query a).run (steps.filter Step.isCall)).statement :=
    statement_run_filter (p := x.query a) (q := y.query a) rfl steps
  have fits := fits_run (q := x.query a) (Statement.fits_empty _) steps
  have fresh := fits_run (q := y.query a) (Statement.fits_empty _) (steps.filter Step.isCall)
  rw [← statement] at fresh
  refine ⟨?_, ?_, ?_, ?_⟩
  · simp only [last, once, sql, Synthesizer.result_synthesize, statement]
  · intro other
    have action : ((x.query a).run steps).statement.action ≠ .update := by
      rw [action_run]
      exact other
    simpa only [last, once, sql, ← statement] using
      fits.registry_synthesize_eq fresh action _ _
  · exact (fits.synthesize ((x.query a).run steps).synthesizer).distinct
  · simpa only [last, once, sql, ← statement] using
      fits.registry_synthesize_perm fresh _ _

/-- A field that is set after a writing stands behind what was compared before it. -/
example :
    let steps : List (Step .update) := [.call (.setField "a" (.int 1) rfl),
      .call (.filter .none "b" "=" (.int 2) rfl), .sql, .call (.setField "c" (.int 3) rfl)]
    let q : Query .update := {}
    (q.run steps).sql.2.registry.names = [":a", ":b", ":c"] ∧
      (q.run (steps.filter Step.isCall)).sql.2.registry.names = [":a", ":c", ":b"] := by
  decide

end Query
end NamedSql
