import NamedSql.Decimal.Numeral
import NamedSql.Scalar

/-!
# The scalar of a numeral

A numeral is handed over as a number of one of three kinds: unsigned, signed or a float. A number is
then an integer if 64 signed bits hold it, and a float otherwise; floats stay floats, and `-0` is one
of them.

A float is read from as many digits as an unsigned 64-bit significand holds, scaled by a power of
ten. Significand and power are each the nearest float, and so is each result of scaling, so that the
float may differ from the nearest one to the numeral.
-/

namespace NamedSql.Decimal

/-! ## Significands -/

def significandBound : Nat := 0x10000000000000000

/-- Appends digits to a number while it stays below the bound; the digits left over. -/
def absorb (n : Nat) : List Digit → Nat × List Digit
  | [] => (n, [])
  | d :: ds =>
    if 10 * n + d.val < significandBound then absorb (10 * n + d.val) ds else (n, d :: ds)

/-- Digits scaled by a power of ten, as far as a significand holds them. Whole digits that are left
over still count as places; digits behind the point that are left over are dropped. -/
def Numeral.scaled (n : Numeral) : Nat × Int :=
  let (whole, wholeLeft) := absorb 0 n.whole
  let (significand, fractionLeft) := absorb whole n.fraction
  let places : Int := wholeLeft.length - (n.fraction.length - fractionLeft.length : Nat)
  (significand, places + n.exponent.getD 0)

/-! ## Scaling -/

/-- The greatest power of ten that a float reaches. -/
def greatestPower : Nat := 308

def powerOfTen (k : Nat) : Float := Float.ofScientific 1 false k

def shrink (x : Float) (k : Nat) : Float :=
  if k ≤ greatestPower then x / powerOfTen k
  else if x == 0 then x
  else shrink (x / powerOfTen greatestPower) (k - greatestPower)
termination_by k
decreasing_by simp [greatestPower] at *; omega

def grow? (x : Float) (k : Nat) : Option Float :=
  if k ≤ greatestPower then
    let y := x * powerOfTen k
    if y.isInf then none else some y
  else if x == 0 then some x
  else none

def Numeral.float? (n : Numeral) : Option Float :=
  let (significand, power) := n.scaled
  let x := Float.ofNat significand
  let size? := if 0 ≤ power then grow? x power.toNat else some (shrink x power.natAbs)
  size?.map fun y => if n.negative then -y else y

/-! ## Kinds of numbers -/

inductive Number where
  | unsigned (n : UInt64)
  | signed (n : Int64)
  | float (x : Float)
  deriving Repr

/-- The number of a numeral, unless it is too large for a float. Whole digits that a significand
holds make an unsigned number, or a signed one behind a minus sign; where its opposite is not
negative, as it is zero or has wrapped around, it is a float like all that is not whole. -/
def Numeral.number? (n : Numeral) : Option Number :=
  let (size, left) := absorb 0 n.whole
  if n.isWhole && left.isEmpty then
    if n.negative then
      let opposite := -Int64.ofNat size
      some (if 0 ≤ opposite then .float (-Float.ofNat size) else .signed opposite)
    else some (.unsigned (.ofNat size))
  else n.float?.map .float

def greatestInteger : Nat := 0x7FFFFFFFFFFFFFFF

def Number.int? : Number → Option Int64
  | .unsigned n => if n.toNat ≤ greatestInteger then some (.ofNat n.toNat) else none
  | .signed n => some n
  | .float _ => none

def Number.toFloat : Number → Float
  | .unsigned n => .ofNat n.toNat
  | .signed n => .ofInt n.toInt
  | .float x => x

end NamedSql.Decimal

namespace NamedSql.Scalar
open Decimal (Number Numeral)

def ofNumber (n : Number) : Scalar :=
  match n.int? with
  | some i => .int i
  | none => .float n.toFloat

def ofNumeral? (n : Numeral) : Option Scalar := n.number?.map ofNumber

end NamedSql.Scalar
