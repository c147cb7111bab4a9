import NamedSql.Config
import NamedSql.Error
import NamedSql.Toml.Reader
import NamedSql.Toml.Table

/-!
# Configuration documents

A configuration is a TOML document with two keys, `log_level` and `max_logged_sql_length`. A missing
key keeps its default, and other keys are ignored.
-/

namespace NamedSql

def Toml.Value.isVoid : Toml.Value → Bool
  | .array [] => true
  | .table _ entries => entries.isEmpty
  | _ => false

/-- The level that a value names: a text, or a table whose only entry is void. -/
def LogLevel.ofToml? : Toml.Value → Option LogLevel
  | .string word => named? word
  | .table _ entries =>
    match entries.toList with
    | [(word, v)] => if v.isVoid then named? word else none
    | _ => none
  | _ => none

namespace Config

def greatestLength : Nat := 0xFFFFFFFFFFFFFFFF

def lengthOfToml? : Toml.Value → Option Nat
  | .integer n => if 0 ≤ n ∧ n ≤ greatestLength then some n.toNat else none
  | _ => none

def keyOr {α : Type} (t : Toml.Table) (name : String) (missing : α)
    (read? : Toml.Value → Option α) : Except Error α :=
  match t.get? name with
  | none => .ok missing
  | some v =>
    match read? v with
    | some a => .ok a
    | none => .error (.config ("invalid value for " ++ name))

def ofTable (t : Toml.Table) : Except Error Config := do
  let preset : Config := {}
  let logLevel ← keyOr t "log_level" preset.logLevel LogLevel.ofToml?
  let maxLoggedLength ← keyOr t "max_logged_sql_length" preset.maxLoggedLength fun v =>
    (lengthOfToml? v).map some
  return { logLevel, maxLoggedLength }

def ofToml (text : String) : Except Error Config :=
  match (Toml.lines? text).bind Toml.Document.ofLines? with
  | some t => ofTable t
  | none => .error (.config "not a valid document")

end Config
end NamedSql
