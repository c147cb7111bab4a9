import NamedSql.Synthesizer

/-!
# Builders

A query is a statement under construction, together with the registry that its syntheses fill and
the synthesizer that writes it. The registry is never cleared, so a placeholder registered once stays.
-/

namespace NamedSql

structure Query (a : Action) where
  synthesizer : Synthesizer := {}
  statement : Statement := .new a
  registry : Registry := ∅
  deriving Inhabited

structure Built where
  sql : String
  placeholders : Registry
  deriving BEq

def Synthesizer.query (s : Synthesizer) (a : Action) : Query a := { synthesizer := s }

namespace Query
variable {a : Action}

/-- Writes the statement as it stands; the builder keeps the registered placeholders. -/
def sql (q : Query a) : Outcome × Query a :=
  let outcome := q.synthesizer.synthesize q.statement q.registry
  (outcome, { q with registry := outcome.registry })

def build (q : Query a) : Except Error Built × Event :=
  let outcome := q.sql.1
  (outcome.result.map fun sql => ⟨sql, outcome.registry⟩, outcome.event)

@[simp]
theorem statement_sql (q : Query a) : q.sql.2.statement = q.statement := rfl

@[simp]
theorem synthesizer_sql (q : Query a) : q.sql.2.synthesizer = q.synthesizer := rfl

end Query
end NamedSql
