import NamedSql.Decimal.Digits

/-!
# Decimal numerals

A numeral is a number as it is written: sign, whole digits, digits behind a point, power of ten.
Numerals of one value may differ.
-/

namespace NamedSql.Decimal

structure Numeral where
  negative : Bool := false
  whole : List Digit
  /-- The digits behind the point; without digits there is no point. -/
  fraction : List Digit := []
  exponent : Option Int := none
  deriving DecidableEq, Repr

namespace Numeral

def isWhole (n : Numeral) : Bool := n.fraction.isEmpty && n.exponent.isNone

def ofInt (n : Int) : Numeral := { negative := n < 0, whole := digits n.natAbs }

/-- The characters of an exponent; its sign is always written. -/
def exponentChars (e : Int) : List Char :=
  'e' :: (if e < 0 then '-' else '+') :: Decimal.chars e.natAbs

def chars (n : Numeral) : List Char :=
  (if n.negative then ['-'] else []) ++ n.whole.map digitChar ++
    (if n.fraction.isEmpty then [] else '.' :: n.fraction.map digitChar) ++
    n.exponent.elim [] exponentChars

def text (n : Numeral) : String := String.ofList n.chars

end Numeral
end NamedSql.Decimal
