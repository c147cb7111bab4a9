import NamedSql.Proofs.Query.Components
import NamedSql.Proofs.Query.Repetition
import NamedSql.Query.Any

/-!
# What a caller can do with a builder

A builder is held as one of a known action or as one of an action known only at run time. It is made
fresh (`Handle.Fresh`), and every use leads from one handle to the next (`Handle.Move`), so a run is
a chain of uses (`Handle.Leads`) together with the fields that its chain calls supplied.

* `fields_leads`: the fields are those that the run supplied, later values in earlier places.
* `AnyQuery.Kept`: what every use preserves, about the statement and the registry together.
-/

namespace NamedSql

def Call.supplied {a : Action} : Call a → List (String × Scalar)
  | .setField field value _ => [(field, value)]
  | .set fields _ => fields
  | _ => []

inductive Handle where
  | typed {a : Action} (q : Query a)
  | any (q : AnyQuery)

namespace Handle

def query : Handle → AnyQuery
  | .typed q => q.wrap
  | .any q => q

def sql : Handle → Outcome × Handle
  | .typed q => (q.sql.1, .typed q.sql.2)
  | .any q => (q.sql.1, .any q.sql.2)

def build : Handle → Except Error Built × Event
  | .typed q => q.build
  | .any q => q.build

inductive Fresh : Handle → Prop
  | new (a : Action) : Fresh (.typed ({} : Query a))
  | query (x : Synthesizer) (a : Action) : Fresh (.typed (x.query a))
  | named {x : Synthesizer} {word : String} {q : AnyQuery} (found : x.queryNamed word = .ok q) :
      Fresh (.any q)

/-- One use of a builder, with the fields that it supplies. A clone is its original as it stands,
and goes its own way from there. -/
inductive Move : Handle → List (String × Scalar) → Handle → Prop
  | call {a : Action} (q : Query a) (c : Call a) : Move (.typed q) c.supplied (.typed (q.call c))
  | sql (h : Handle) : Move h [] h.sql.2
  | clone (h : Handle) : Move h [] h
  | wrap {a : Action} (q : Query a) : Move (.typed q) [] (.any q.wrap)
  | unwrap {a : Action} {q : AnyQuery} {p : Query a} (found : q.as? a = some p) :
      Move (.any q) [] (.typed p)

inductive Leads (b : Handle) : List (String × Scalar) → Handle → Prop
  | refl : Leads b [] b
  | step {given more : List (String × Scalar)} {h next : Handle} (leads : Leads b given h)
      (move : Move h more next) : Leads b (given ++ more) next

variable {b h next : Handle} {given more : List (String × Scalar)}

theorem Leads.trans (leads : Leads b given h) (further : Leads h more next) :
    Leads b (given ++ more) next := by
  induction further with
  | refl => rwa [List.append_nil]
  | step _ move ih =>
      rw [← List.append_assoc]
      exact ih.step move

end Handle

/-! ## One way to look at both -/

theorem AnyQuery.eq_wrap_of_as? {q : AnyQuery} {a : Action} {p : Query a}
    (found : q.as? a = some p) : q = p.wrap := by
  obtain ⟨b, q⟩ := q
  unfold as? at found
  split at found
  · rename_i same
    cases same
    exact congrArg Query.wrap (Option.some.inj found)
  · cases found

namespace Handle
variable {b h next : Handle} {given more : List (String × Scalar)}

theorem sql_eq (h : Handle) : h.sql.1 = h.query.sql.1 ∧ h.sql.2.query = h.query.sql.2 := by
  cases h <;> exact ⟨rfl, rfl⟩

theorem build_eq_query (h : Handle) : h.build = h.query.build := by
  cases h <;> rfl

theorem Move.query_cases (move : Move h more next) :
    (∃ (a : Action) (q : Query a) (c : Call a),
      h.query = q.wrap ∧ more = c.supplied ∧ next.query = (q.call c).wrap) ∨
    (more = [] ∧ next.query = h.query.sql.2) ∨
    (more = [] ∧ next.query = h.query) := by
  cases move with
  | call q c => exact .inl ⟨_, q, c, rfl, rfl, rfl⟩
  | sql h => exact .inr (.inl ⟨rfl, h.sql_eq.2⟩)
  | clone h => exact .inr (.inr ⟨rfl, rfl⟩)
  | wrap q => exact .inr (.inr ⟨rfl, rfl⟩)
  | unwrap found => exact .inr (.inr ⟨rfl, (AnyQuery.eq_wrap_of_as? found).symm⟩)

theorem Fresh.query_eq (fresh : Fresh b) :
    ∃ x : Synthesizer, b.query = (x.query b.query.action).wrap := by
  cases fresh with
  | new a => exact ⟨{}, rfl⟩
  | query x a => exact ⟨x, rfl⟩
  | @named x word q found =>
      unfold Synthesizer.queryNamed at found
      cases parsed : Action.parse word with
      | error e => rw [parsed] at found; cases found
      | ok a => rw [parsed] at found; cases found; exact ⟨x, rfl⟩

end Handle

/-! ## Fields -/

theorem Call.fields_apply {a : Action} (c : Call a) (s : Statement) :
    (c.apply s).fields = s.fields.extend c.supplied := by
  cases c <;> rfl

namespace Handle
variable {b h next : Handle} {given more : List (String × Scalar)}

theorem Move.fields (move : Move h more next) :
    next.query.statement.fields = h.query.statement.fields.extend more := by
  rcases move.query_cases with ⟨a, q, c, before, rfl, after⟩ | ⟨rfl, after⟩ | ⟨rfl, after⟩
  · rw [before, after]
    exact c.fields_apply q.statement
  · rw [after]
    rfl
  · rw [after]
    rfl

theorem fields_leads (fresh : Fresh b) (leads : Leads b given h) :
    h.query.statement.fields = .ofList given := by
  induction leads with
  | refl =>
      obtain ⟨x, same⟩ := fresh.query_eq
      rw [same]
      rfl
  | step _ move ih => rw [move.fields, ih, Entries.ofList, Entries.ofList, Entries.extend_append]

end Handle

/-! ## What every use keeps -/

def Component.Offered (a : Action) : Component → Prop
  | .table => True
  | .selectFields => a = .select
  | .fields => a.writesFields
  | .clauses | .orderBy | .direction | .limit => a.filtersRows

theorem Call.offered_of_component? {a : Action} {c : Call a} {k : Component}
    (here : c.component? = some k) : k.Offered a := by
  cases c <;> cases here <;> trivial

namespace AnyQuery

structure Kept (q : AnyQuery) : Prop where
  action : q.statement.action = q.action
  fetchable : q.statement.fetchable = q.action.isFetchable
  parts : ∀ k : Component, ¬k.Offered q.action →
    q.statement.part k = (Statement.new q.action).part k
  fields : q.statement.fields.names.Nodup
  fits : q.statement.Fits q.registry

theorem kept_query (x : Synthesizer) (a : Action) : (x.query a).wrap.Kept where
  action := rfl
  fetchable := rfl
  parts := fun _ _ => rfl
  fields := List.nodup_nil
  fits := Statement.fits_empty _

theorem Kept.call {a : Action} {q : Query a} (kept : q.wrap.Kept) (c : Call a) :
    (q.call c).wrap.Kept where
  action := (Call.action_apply c q.statement).trans kept.action
  fetchable := (Call.fetchable_apply c q.statement).trans kept.fetchable
  parts := by
    intro k unoffered
    have other : c.component? ≠ some k := fun here => unoffered (Call.offered_of_component? here)
    exact (Call.part_apply_of_ne other q.statement).trans (kept.parts k unoffered)
  fields := by
    change (c.apply q.statement).fields.names.Nodup
    rw [c.fields_apply]
    exact Entries.nodup_names_extend kept.fields _
  fits := kept.fits.of_grows (Statement.grows_apply c q.statement)

theorem Kept.sql {q : AnyQuery} (kept : q.Kept) : q.sql.2.Kept where
  action := kept.action
  fetchable := kept.fetchable
  parts := kept.parts
  fields := kept.fields
  fits := kept.fits.synthesize q.query.synthesizer

end AnyQuery

namespace Handle
variable {b h next : Handle} {given more : List (String × Scalar)}

theorem Move.kept (move : Move h more next) (kept : h.query.Kept) :
    next.query.Kept ∧ next.query.action = h.query.action := by
  rcases move.query_cases with ⟨a, q, c, before, -, after⟩ | ⟨-, after⟩ | ⟨-, after⟩
  · rw [before] at kept ⊢
    rw [after]
    exact ⟨kept.call c, rfl⟩
  · rw [after]
    exact ⟨kept.sql, rfl⟩
  · rw [after]
    exact ⟨kept, rfl⟩

theorem kept_leads (fresh : Fresh b) (leads : Leads b given h) :
    h.query.Kept ∧ h.query.action = b.query.action := by
  induction leads with
  | refl =>
      obtain ⟨x, same⟩ := fresh.query_eq
      refine ⟨?_, rfl⟩
      rw [same]
      exact AnyQuery.kept_query x _
  | step _ move ih =>
      obtain ⟨kept, action⟩ := move.kept ih.1
      exact ⟨kept, action.trans ih.2⟩

end Handle
end NamedSql
