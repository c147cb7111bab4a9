import NamedSql.Action

/-! # What can go wrong, and how it is told -/

namespace NamedSql

inductive Error where
  | unsupportedAction (name : String)
  | missingFields (action : Action)
  | config (reason : String)
  deriving DecidableEq, Repr

namespace Error

def message : Error → String
  | .unsupportedAction name => "Unsupported query action: '" ++ name ++ "'"
  | .missingFields action => "No modify fields specified for " ++ action.keyword ++ " query"
  | .config reason => "Config error: " ++ reason

def isMissingFields : Error → Bool
  | .missingFields _ => true
  | _ => false

def isUnsupportedAction : Error → Bool
  | .unsupportedAction _ => true
  | _ => false

end Error

def Action.parse (word : String) : Except Error Action :=
  match named? word with
  | some action => .ok action
  | none => .error (.unsupportedAction word)

theorem Action.parse_eq_ok_iff {word : String} {a : Action} :
    parse word = .ok a ↔ named? word = some a := by
  unfold parse
  cases named? word <;> simp

theorem Action.parse_eq_error_iff {word : String} {e : Error} :
    parse word = .error e ↔ named? word = none ∧ e = .unsupportedAction word := by
  unfold parse
  cases named? word <;> simp [eq_comm]

end NamedSql
