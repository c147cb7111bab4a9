/-! # Numbers scaled by powers -/

namespace NamedSql.Decimal

/-- The number `significand * 10 ^ exponent`. -/
structure Scaled where
  significand : Nat
  exponent : Int
  deriving DecidableEq, Repr

/-- The factor `base ^ e` if `e` is positive, and one otherwise. Where one side of a comparison has
`upScale base e` and the other `upScale base (-e)`, both are whole. -/
def upScale (base : Nat) (e : Int) : Nat := Nat.pow base e.toNat

end NamedSql.Decimal
