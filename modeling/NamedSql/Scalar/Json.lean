import NamedSql.Decimal.Layout
import NamedSql.Entries
import NamedSql.Json.Printer
import NamedSql.Scalar.Numeral

/-!
# Scalars and JSON

A scalar is a JSON scalar. Floats keep a point or an exponent, which tells them from integers;
those that are not finite have no JSON form and become null.
-/

namespace NamedSql

namespace Scalar

/-! ## Writing -/

/-- Floats are written positionally from `0.00001` up to sixteen whole digits, whole ones with a
point; ties go to the even digit. -/
def jsonLayout : Decimal.Layout := ⟨.toEven, fun e => -5 ≤ e && e ≤ 15, true⟩

def toJson : Scalar → Json
  | .null => .null
  | .bool b => .bool b
  | .int n => .number (.ofInt n.toInt)
  | .float x => (jsonLayout.numeral? x).elim .null .number
  | .text s => .ofText s

def listToJson (vs : List Scalar) : Json := .array (vs.map toJson)

def jsonText : Scalar → String
  | .null => "null"
  | .bool b => if b then "true" else "false"
  | .int n => (Decimal.Numeral.ofInt n.toInt).text
  | .float x => (jsonLayout.numeral? x).elim "null" Decimal.Numeral.text
  | .text s => String.ofList (Json.stringChars (Json.points s))

/-! ## Reading -/

def ofJson? : Json → Option Scalar
  | .null => some .null
  | .bool b => some (.bool b)
  | .number n => ofNumeral? n
  | .string ps => (Json.ofPoints? ps).map .text
  | _ => none

def listOfJson? : Json → Option (List Scalar)
  | .array items => items.mapM ofJson?
  | _ => none

end Scalar

/-! ## Entries -/

namespace Entries

def toJsonPairs (m : Entries Scalar) : Json :=
  .array (m.toList.map fun e => .array [.ofText e.1, e.2.toJson])

def toJsonObject (m : Entries Scalar) : Json :=
  .ofMembers (Json.sortMembers (m.toList.map fun e => (e.1, e.2.toJson)))

def pairOfJson? : Json → Option (String × Scalar)
  | .array [name, value] => do return (← name.text?, ← Scalar.ofJson? value)
  | _ => none

def ofJsonPairs? : Json → Option (Entries Scalar)
  | .array items => (items.mapM pairOfJson?).map ofList
  | _ => none

end Entries
end NamedSql
