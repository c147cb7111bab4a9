import NamedSql.Query

/-!
# Builders of an action known only at run time

Chain calls live on a builder of a known action, so a builder found by name is taken back to its
action before it is filled in.
-/

namespace NamedSql

structure AnyQuery where
  action : Action
  query : Query action

def Synthesizer.queryNamed (s : Synthesizer) (word : String) : Except Error AnyQuery :=
  (Action.parse word).map fun a => ⟨a, s.query a⟩

/-- The builder with its action put aside. -/
def Query.wrap {a : Action} (q : Query a) : AnyQuery := ⟨a, q⟩

namespace AnyQuery

def as? (q : AnyQuery) (a : Action) : Option (Query a) :=
  if h : q.action = a then some (h ▸ q.query) else none

def statement (q : AnyQuery) : Statement := q.query.statement

def registry (q : AnyQuery) : Registry := q.query.registry

def sql (q : AnyQuery) : Outcome × AnyQuery := (q.query.sql.1, q.query.sql.2.wrap)

def build (q : AnyQuery) : Except Error Built × Event := q.query.build

theorem as?_wrap {a : Action} (q : Query a) : q.wrap.as? a = some q := by
  simp [Query.wrap, as?]

end AnyQuery
end NamedSql
