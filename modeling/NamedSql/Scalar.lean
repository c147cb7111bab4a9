/-!
# Bindable values

A scalar is what one placeholder can be bound to. Comparison is that of the kinds it holds: an
integer never equals a float, and floats compare as numbers, so that NaN differs from itself and the
two zeros agree.
-/

namespace NamedSql

inductive Scalar where
  | null
  | bool (value : Bool)
  | int (value : Int64)
  | float (value : Float)
  | text (value : String)
  deriving Inhabited, BEq, DecidableEq

namespace Scalar

def typeName : Scalar → String
  | .null => "null"
  | .bool _ => "bool"
  | .int _ => "int"
  | .float _ => "float"
  | .text _ => "text"

def isNull : Scalar → Bool
  | .null => true
  | _ => false

def text? : Scalar → Option String
  | .text s => some s
  | _ => none

def int? : Scalar → Option Int64
  | .int n => some n
  | _ => none

/-- The value as a float, an integer going to the nearest one. -/
def float? : Scalar → Option Float
  | .float x => some x
  | .int n => some (.ofInt n.toInt)
  | _ => none

def bool? : Scalar → Option Bool
  | .bool b => some b
  | _ => none

end Scalar

/-! ## Types whose values can be bound -/

class Bindable (α : Type) where
  toScalar : α → Scalar

export Bindable (toScalar)

instance : Bindable Scalar := ⟨id⟩
instance : Bindable Bool := ⟨.bool⟩
instance : Bindable String := ⟨.text⟩
instance : Bindable Float := ⟨.float⟩
instance : Bindable Float32 := ⟨fun x => .float x.toFloat⟩
instance : Bindable Int64 := ⟨.int⟩
instance : Bindable Int32 := ⟨fun n => .int n.toInt64⟩
instance : Bindable Int16 := ⟨fun n => .int n.toInt64⟩
instance : Bindable Int8 := ⟨fun n => .int n.toInt64⟩
instance : Bindable UInt32 := ⟨fun n => .int n.toUInt64.toInt64⟩
instance : Bindable UInt16 := ⟨fun n => .int n.toUInt64.toInt64⟩
instance : Bindable UInt8 := ⟨fun n => .int n.toUInt64.toInt64⟩

/-- What is absent is bound as null. -/
instance {α : Type} [Bindable α] : Bindable (Option α) := ⟨fun x => (x.map toScalar).getD .null⟩

end NamedSql
