import NamedSql.Decimal.Numeral
import NamedSql.Decimal.Shortest

/-!
# Writing floats

A layout settles what the shortest digits leave open: ties, where positional writing ends, and
whether a whole number shows a point.
-/

namespace NamedSql.Decimal

/-- Digits times `10 ^ k` in positional writing: those before the point and those behind it. -/
def positions (ds : List Digit) (k : Int) : List Digit × List Digit :=
  let padded := ds ++ List.replicate k.toNat zero
  let places := (-k).toNat
  if places < padded.length then padded.splitAt (padded.length - places)
  else ([zero], List.replicate (places - ds.length) zero ++ ds)

structure Layout where
  tie : Tie
  /-- Whether a number whose first digit counts `10 ^ e` is written positionally. -/
  positional : Int → Bool
  /-- Whether a whole number is followed by a point and a zero. -/
  showsPoint : Bool

def Layout.numeral (l : Layout) (negative : Bool) (x : Scaled) : Numeral :=
  let ds := digits x.significand
  let e := x.exponent + (ds.length - 1 : Nat)
  if l.positional e then
    let (whole, fraction) := positions ds x.exponent
    { negative, whole, fraction := if fraction.isEmpty && l.showsPoint then [zero] else fraction }
  else
    { negative, whole := ds.take 1, fraction := ds.drop 1, exponent := some e }

def Layout.numeral? (l : Layout) (x : Float) : Option Numeral :=
  match Binary.ofFloat x with
  | .finite negative m q => some (l.numeral negative (shortest m q l.tie))
  | _ => none

end NamedSql.Decimal
