import NamedSql.Config
import NamedSql.Error

/-!
# Log events

A synthesis reports itself once: the action, the table, and either the SQL and the number of
placeholders or the error.
-/

namespace NamedSql

inductive Report where
  | written (placeholders : Nat) (sql : String)
  | failed (error : Error)
  deriving DecidableEq, Repr

structure Event where
  level : LogLevel
  action : Action
  table : String
  report : Report
  deriving DecidableEq, Repr

inductive LogValue where
  | number (value : Nat)
  | text (value : String)
  deriving DecidableEq, Repr

namespace Event

def target : String := "sqlporter.sql"

def values (e : Event) : List (String × LogValue) :=
  [("action", .text e.action.name), ("table", .text e.table)] ++
    match e.report with
    | .written placeholders sql => [("placeholder_count", .number placeholders), ("sql", .text sql)]
    | .failed error => [("error", .text error.message), ("message", .text "synthesis failed")]

end Event
end NamedSql
