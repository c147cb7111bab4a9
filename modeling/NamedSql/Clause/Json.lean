import NamedSql.Action
import NamedSql.Clause
import NamedSql.Scalar.Json

/-!
# Clauses and words in JSON

An action or a glue is its lowercase name. A clause is an object; where one is read, the four values
may stand in a list instead, and members of other names are ignored.
-/

namespace NamedSql

/-! ## Words -/

def Action.toJson (a : Action) : Json := .ofText a.name

def Action.ofJson? (v : Json) : Option Action :=
  v.word?.bind fun word => Action.all.find? fun a => a.name = word

def Glue.toJson (g : Glue) : Json := .ofText g.name

def Glue.ofJson? (v : Json) : Option Glue :=
  v.word?.bind fun word => Glue.all.find? fun g => g.name = word

/-! ## Clauses -/

namespace Clause

def toJson (c : Clause) : Json :=
  .ofMembers [("glue", c.glue.toJson), ("field_name", .ofText c.field),
    ("condition", .ofText c.condition), ("field_value", c.value.toJson)]

def ofParts? (glue field condition value : Json) : Option Clause := do
  return ⟨← Glue.ofJson? glue, ← field.text?, ← condition.text?, ← Scalar.ofJson? value⟩

/-- The clause that a JSON value holds. Each of the four names must occur exactly once. -/
def ofJson? : Json → Option Clause
  | .array [glue, field, condition, value] => ofParts? glue field condition value
  | .object members => do
    let ms ← Json.members? members
    ofParts? (← Json.single? "glue" ms) (← Json.single? "field_name" ms)
      (← Json.single? "condition" ms) (← Json.single? "field_value" ms)
  | _ => none

end Clause
end NamedSql
