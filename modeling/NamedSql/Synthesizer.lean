import NamedSql.Event
import NamedSql.Statement.Writer
import NamedSql.Text.Cut

/-!
# Synthesis

Synthesis writes a statement's SQL and registers the values of the placeholders in it. It fails only
where a statement that writes fields has none, and then registers nothing. Either way it reports one
event.
-/

namespace NamedSql

namespace Statement

def render (s : Statement) : Except Error String :=
  if s.action.writesFields && s.fields.isEmpty then .error (.missingFields s.action) else .ok s.text

/-- Synthesis gives what the statement says without a registry in sight, and extends the registry
by the statement's visits unless it fails. -/
theorem run_write? (s : Statement) (r : Registry) :
    s.write?.run r = (s.render, match s.render with
      | .ok _ => r.extend s.visits
      | .error _ => r) := by
  unfold render
  cases missing : s.action.writesFields && s.fields.isEmpty with
  | true => exact run_write?_of_missing missing r
  | false => exact run_write?_of_given missing r

end Statement

structure Outcome where
  result : Except Error String
  registry : Registry
  event : Event

structure Synthesizer where
  config : Config := {}
  deriving DecidableEq, Repr, Inhabited

namespace Synthesizer

/-- The SQL as an event shows it: whole, or as much as the configuration allows and an ellipsis. -/
def shown (s : Synthesizer) (sql : String) : String :=
  match s.config.maxLoggedLength with
  | some max => if sql.utf8ByteSize ≤ max then sql else Text.cut max sql ++ "..."
  | none => sql

/-- The event of a synthesis that left `registry`. -/
def event (s : Synthesizer) (statement : Statement) (registry : Registry) :
    Except Error String → Event
  | .ok sql =>
    ⟨s.config.logLevel, statement.action, statement.table, .written registry.size (s.shown sql)⟩
  | .error e => ⟨.warn, statement.action, statement.table, .failed e⟩

def synthesize (s : Synthesizer) (statement : Statement) (registry : Registry) : Outcome :=
  let (result, registry) := statement.write?.run registry
  { result, registry, event := s.event statement registry result }

@[simp]
theorem result_synthesize (x : Synthesizer) (s : Statement) (r : Registry) :
    (x.synthesize s r).result = s.render := by
  simp [synthesize, Statement.run_write?]

theorem registry_synthesize_of_ok {s : Statement} {sql : String} (ok : s.render = .ok sql)
    (x : Synthesizer) (r : Registry) : (x.synthesize s r).registry = r.extend s.visits := by
  simp [synthesize, Statement.run_write?, ok]

theorem registry_synthesize_of_error {s : Statement} {e : Error} (failed : s.render = .error e)
    (x : Synthesizer) (r : Registry) : (x.synthesize s r).registry = r := by
  simp [synthesize, Statement.run_write?, failed]

/-! ## Success -/

variable {x : Synthesizer} {s : Statement} {r : Registry} {sql : String}

theorem sql_synthesize (ok : (x.synthesize s r).result = .ok sql) : sql = s.text := by
  rw [result_synthesize, Statement.render] at ok
  split at ok
  · cases ok
  · exact (Except.ok.inj ok).symm

theorem fields_of_synthesize (ok : (x.synthesize s r).result = .ok sql)
    (writes : s.action.writesFields) : s.fields.names ≠ [] := by
  intro none
  rw [Entries.names, List.map_eq_nil_iff] at none
  simp [Statement.render, writes, Entries.isEmpty, none] at ok

end Synthesizer
end NamedSql
