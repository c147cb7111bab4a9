/-!
# The value of a float

A finite float is a natural number times a power of two. Its significand has at most 53 bits, and
exactly 53 unless the power is the least one, `2 ^ -1074`.
-/

namespace NamedSql.Decimal

inductive Binary where
  | nan
  | infinite (negative : Bool)
  /-- The number `significand * 2 ^ exponent`, or its negative. -/
  | finite (negative : Bool) (significand : Nat) (exponent : Int)
  deriving DecidableEq, Repr

namespace Binary

def leastExponent : Int := -1074

/-- The significand of a power of two, `2 ^ 52`, unless it is among the smallest floats. -/
def leadingBit : Nat := 0x10000000000000

/-- Reads the sign, the eleven bits of the exponent and the fraction. -/
def ofBits (bits : Nat) : Binary :=
  let negative := bits / 0x8000000000000000 % 2 = 1
  let biased : Nat := bits / leadingBit % 0x800
  let fraction : Nat := bits % leadingBit
  if biased = 0x7FF then
    if fraction = 0 then .infinite negative else .nan
  else if biased = 0 then
    .finite negative fraction leastExponent
  else
    .finite negative (leadingBit + fraction) (leastExponent + biased - 1)

def ofFloat (x : Float) : Binary := ofBits x.toBits.toNat

end Binary
end NamedSql.Decimal
