import NamedSql.Text.Letters

/-!
# The four kinds of statement

An action has a keyword, which opens its SQL text, and a lowercase name, by which it is asked for
and reported. What a statement of that kind can hold follows from the action alone.
-/

namespace NamedSql

inductive Action where
  | select
  | insert
  | update
  | delete
  deriving DecidableEq, Repr, Inhabited

namespace Action

def all : List Action := [.select, .insert, .update, .delete]

def keyword : Action → String
  | .select => "SELECT"
  | .insert => "INSERT"
  | .update => "UPDATE"
  | .delete => "DELETE"

def name : Action → String
  | .select => "select"
  | .insert => "insert"
  | .update => "update"
  | .delete => "delete"

def isFetchable : Action → Bool
  | .select => true
  | _ => false

def writesFields : Action → Bool
  | .insert | .update => true
  | _ => false

def filtersRows : Action → Bool
  | .insert => false
  | _ => true

/-- The action of a name in any mixture of ASCII cases. -/
def named? (word : String) : Option Action :=
  all.find? fun a => Text.sameWord a.name.toList word.toList

theorem mem_all (a : Action) : a ∈ all := by cases a <;> decide

theorem name_injective {a b : Action} (h : a.name = b.name) : a = b := by
  cases a <;> cases b <;> first | rfl | exact absurd h (by decide)

end Action
end NamedSql
