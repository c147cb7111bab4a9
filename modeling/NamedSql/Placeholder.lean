import NamedSql.Entries
import NamedSql.Scalar

/-!
# Placeholders

A value stands in SQL text as a colon and the field's name. The name is taken as it is, so a blank
or empty field gives a placeholder too. A registry holds the values of the placeholders in the order
in which they were first registered.
-/

namespace NamedSql

def placeholder (field : String) : String := ":" ++ field

theorem placeholder_injective {f g : String} (h : placeholder f = placeholder g) : f = g := by
  simpa [placeholder] using h

abbrev Registry := Entries Scalar

def Registry.register (r : Registry) (field : String) (value : Scalar) : Registry :=
  r.set (placeholder field) value

end NamedSql
