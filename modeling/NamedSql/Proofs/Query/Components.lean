import NamedSql.Query.Call

namespace NamedSql

inductive Component where
  | table
  | selectFields
  | fields
  | clauses
  | orderBy
  | direction
  | limit
  deriving DecidableEq

def Component.Value : Component → Type
  | .table => String
  | .selectFields => List String
  | .fields => FieldMap
  | .clauses => List Clause
  | .orderBy => List String
  | .direction => String
  | .limit => Option Nat

def Statement.part (s : Statement) : (k : Component) → k.Value
  | .table => s.table
  | .selectFields => s.selectFields
  | .fields => s.fields
  | .clauses => s.clauses
  | .orderBy => s.orderBy
  | .direction => s.direction
  | .limit => s.limit

theorem Statement.eq_of_part {s t : Statement} (action : s.action = t.action)
    (fetchable : s.fetchable = t.fetchable) (parts : ∀ k, s.part k = t.part k) : s = t := by
  cases s
  cases t
  simp only [mk.injEq]
  exact ⟨action, fetchable, parts .table, parts .selectFields, parts .fields, parts .clauses,
    parts .orderBy, parts .direction, parts .limit⟩

namespace Call
variable {a : Action}

def component? : Call a → Option Component
  | .start _ => none
  | .table _ => some .table
  | .selectField _ _ | .select _ _ => some .selectFields
  | .setField _ _ _ | .set _ _ => some .fields
  | .filter _ _ _ _ _ | .clause _ _ => some .clauses
  | .orderByField _ _ | .orderBy _ _ => some .orderBy
  | .direction _ _ => some .direction
  | .limit _ _ => some .limit

/-- The single calls that a call stands for: one for each item of a list, and a clause with its
glue for each comparison. -/
def singles : Call a → List (Call a)
  | .select fields selects => fields.map fun field => .selectField field selects
  | .set fields writes => fields.map fun e => .setField e.1 e.2 writes
  | .filter glue field condition value filters =>
    [.clause ⟨glue, field, condition, value⟩ filters]
  | .orderBy fields filters => fields.map fun field => .orderByField field filters
  | c => [c]

def applyAll (s : Statement) (cs : List (Call a)) : Statement := cs.foldl apply s

/-! ## A batch and its items -/

theorem applyAll_selectField (selects : a = .select) (fields : List String) (s : Statement) :
    applyAll s (fields.map fun field => .selectField field selects) = s.addSelectFields fields := by
  induction fields generalizing s with
  | nil => simp [applyAll, Statement.addSelectFields]
  | cons field fields ih =>
      refine (ih (s.addSelectField field)).trans ?_
      simp [Statement.addSelectFields, Statement.addSelectField]

theorem applyAll_setField (writes : a.writesFields) (fields : List (String × Scalar))
    (s : Statement) :
    applyAll s (fields.map fun e => .setField e.1 e.2 writes) = s.setFields fields := by
  induction fields generalizing s with
  | nil => rfl
  | cons e fields ih => exact ih (s.setField e.1 e.2)

theorem applyAll_orderByField (filters : a.filtersRows) (fields : List String) (s : Statement) :
    applyAll s (fields.map fun field => .orderByField field filters) = s.addOrderFields fields := by
  induction fields generalizing s with
  | nil => simp [applyAll, Statement.addOrderFields]
  | cons field fields ih =>
      refine (ih (s.addOrderField field)).trans ?_
      simp [Statement.addOrderFields, Statement.addOrderField]

theorem applyAll_singles (c : Call a) (s : Statement) : applyAll s c.singles = c.apply s := by
  cases c with
  | select fields selects => exact applyAll_selectField selects fields s
  | set fields writes => exact applyAll_setField writes fields s
  | orderBy fields filters => exact applyAll_orderByField filters fields s
  | _ => rfl

theorem applyAll_flatMap_singles (cs : List (Call a)) (s : Statement) :
    applyAll s (cs.flatMap singles) = applyAll s cs := by
  induction cs generalizing s with
  | nil => rfl
  | cons c cs ih =>
      rw [List.flatMap_cons, applyAll, List.foldl_append]
      change applyAll (applyAll s c.singles) (cs.flatMap singles) = applyAll (c.apply s) cs
      rw [applyAll_singles, ih]

/-! ## One component at a time -/

theorem action_apply (c : Call a) (s : Statement) : (c.apply s).action = s.action := by
  cases c <;> rfl

theorem fetchable_apply (c : Call a) (s : Statement) : (c.apply s).fetchable = s.fetchable := by
  cases c <;> rfl

theorem part_apply_of_ne {c : Call a} {k : Component} (other : c.component? ≠ some k)
    (s : Statement) : (c.apply s).part k = s.part k := by
  cases c <;> cases k
  all_goals first
    | rfl
    | exact absurd rfl other

theorem part_apply_congr (c : Call a) {k : Component} {s t : Statement}
    (same : s.part k = t.part k) : (c.apply s).part k = (c.apply t).part k := by
  by_cases here : c.component? = some k
  · -- The new value of the component is made from the old one alone, or from nothing.
    cases c with
    | start _ => cases here
    | table _ | direction _ _ | limit _ _ => cases here; rfl
    | selectField field _ | orderByField field _ =>
        cases here
        exact congrArg (fun fields : List String => fields ++ [field]) same
    | select fields _ | orderBy fields _ =>
        cases here
        exact congrArg (fun before : List String => before ++ fields) same
    | setField field value _ =>
        cases here
        exact congrArg (fun fields : FieldMap => fields.set field value) same
    | set entries _ =>
        cases here
        exact congrArg (fun fields : FieldMap => fields.extend entries) same
    | filter glue field condition value _ =>
        cases here
        exact congrArg (fun clauses : List Clause =>
          clauses ++ [⟨glue, field, condition, value⟩]) same
    | clause c _ =>
        cases here
        exact congrArg (fun clauses : List Clause => clauses ++ [c]) same
  · rw [part_apply_of_ne here, part_apply_of_ne here, same]

def onPart (k : Component) (cs : List (Call a)) : List (Call a) :=
  cs.filter fun c => c.component? = some k

theorem fixed_applyAll (cs : List (Call a)) (s : Statement) :
    (applyAll s cs).action = s.action ∧ (applyAll s cs).fetchable = s.fetchable := by
  induction cs generalizing s with
  | nil => exact ⟨rfl, rfl⟩
  | cons c cs ih =>
      obtain ⟨action, fetchable⟩ := ih (c.apply s)
      exact ⟨action.trans (action_apply c s), fetchable.trans (fetchable_apply c s)⟩

theorem part_applyAll (k : Component) (cs : List (Call a)) {s t : Statement}
    (same : s.part k = t.part k) :
    (applyAll s cs).part k = (applyAll t (onPart k cs)).part k := by
  induction cs generalizing s t with
  | nil => exact same
  | cons c cs ih =>
      by_cases here : c.component? = some k
      · rw [onPart, List.filter_cons_of_pos (by simpa using here)]
        exact ih (part_apply_congr c same)
      · rw [onPart, List.filter_cons_of_neg (by simpa using here)]
        exact ih ((part_apply_of_ne here s).trans same)

/-- Lists of calls that say the same about each component, batches taken item by item. -/
def SameParts (cs ds : List (Call a)) : Prop :=
  ∀ k, onPart k (cs.flatMap singles) = onPart k (ds.flatMap singles)

theorem applyAll_of_sameParts {cs ds : List (Call a)} (same : SameParts cs ds) (s : Statement) :
    applyAll s cs = applyAll s ds := by
  rw [← applyAll_flatMap_singles cs, ← applyAll_flatMap_singles ds]
  refine Statement.eq_of_part ?_ ?_ ?_
  · rw [(fixed_applyAll _ s).1, (fixed_applyAll _ s).1]
  · rw [(fixed_applyAll _ s).2, (fixed_applyAll _ s).2]
  · intro k
    rw [part_applyAll k _ (rfl : s.part k = s.part k),
      part_applyAll k (ds.flatMap singles) (rfl : s.part k = s.part k), same k]

end Call

namespace Query
variable {a : Action}

theorem run_calls (cs : List (Call a)) (q : Query a) :
    q.run (cs.map .call) = { q with statement := Call.applyAll q.statement cs } := by
  induction cs generalizing q with
  | nil => rfl
  | cons c cs ih => exact ih (q.call c)

theorem run_of_sameParts {cs ds : List (Call a)} (same : Call.SameParts cs ds) (q : Query a) :
    let one := q.run (cs.map .call)
    let other := q.run (ds.map .call)
    one.statement = other.statement ∧ one.sql = other.sql ∧ one.build = other.build := by
  intro one other
  have builders : one = other := by
    rw [show one = _ from run_calls cs q, show other = _ from run_calls ds q,
      Call.applyAll_of_sameParts same]
  rw [builders]
  exact ⟨rfl, rfl, rfl⟩

theorem run_of_sameParts_shuffled :
    let batches : List (Call .update) := [.table "users",
      .set [("name", .text "x"), ("age", .int 4), ("name", .null)] rfl, .orderBy ["id", "name"] rfl,
      .filter .none "id" "=" (.int 7) rfl, .filter .or "age" "<" .null rfl, .limit 3 rfl]
    let items : List (Call .update) := [.limit 3 rfl, .clause ⟨.none, "id", "=", .int 7⟩ rfl,
      .setField "name" (.text "x") rfl, .orderByField "id" rfl, .setField "age" (.int 4) rfl,
      .clause ⟨.or, "age", "<", .null⟩ rfl, .setField "name" .null rfl, .orderByField "name" rfl,
      .table "users"]
    let q : Query .update := { registry := ⟨[(":age", .bool true)]⟩ }
    Call.SameParts batches items ∧
      (q.run (batches.map .call)).statement = (q.run (items.map .call)).statement ∧
      (q.run (batches.map .call)).sql = (q.run (items.map .call)).sql ∧
      (q.run (batches.map .call)).build = (q.run (items.map .call)).build := by
  intro batches items q
  have same : Call.SameParts batches items := by
    intro k
    cases k <;> rfl
  exact ⟨same, run_of_sameParts same q⟩

end Query
end NamedSql
