import NamedSql.Decimal.Layout
import NamedSql.Scalar
import NamedSql.Text.Quoted

/-!
# Scalars as literals

The form in which a scalar is shown to a person. It looks like an SQL literal, and never stands in a
statement.
-/

namespace NamedSql.Scalar

/-- Floats are shown without an exponent, whole ones without a point, and ties go up. -/
def floatLayout : Decimal.Layout := ⟨.up, fun _ => true, false⟩

def floatLiteral (x : Float) : String :=
  match Decimal.Binary.ofFloat x with
  | .nan => "NaN"
  | .infinite negative => if negative then "-inf" else "inf"
  | .finite negative m q =>
    (floatLayout.numeral negative (Decimal.shortest m q floatLayout.tie)).text

def literal : Scalar → String
  | .null => "NULL"
  | .bool b => if b then "true" else "false"
  | .int n => (Decimal.Numeral.ofInt n.toInt).text
  | .float x => floatLiteral x
  | .text s => Text.enclose s

end NamedSql.Scalar
