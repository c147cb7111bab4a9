import NamedSql.Proofs.Decimal.Plain

namespace NamedSql.Json
open Decimal (Digit Numeral digitChar)

/-! ## Powers of ten -/

structure Power where
  capital : Bool
  /-- Whether the sign is a minus, if there is a sign. -/
  minus : Option Bool
  digits : List Digit
  nonempty : digits ≠ []

namespace Power

def chars (p : Power) : List Char :=
  (if p.capital then 'E' else 'e') ::
    (p.minus.elim [] (fun minus => [if minus then '-' else '+']) ++ p.digits.map digitChar)

def value (p : Power) : Int :=
  if p.minus.getD false then -(Decimal.value p.digits : Int) else Decimal.value p.digits

def ofInt (e : Int) : Power :=
  ⟨false, some (e < 0), Decimal.digits e.natAbs, Decimal.digits_ne_nil _⟩

theorem value_ofInt (e : Int) : (ofInt e).value = e := by
  rw [value, ofInt, Decimal.value_digits, Option.getD_some]
  simp only [decide_eq_true_eq]
  omega

theorem chars_ofInt (e : Int) : (ofInt e).chars = Numeral.exponentChars e := by
  by_cases negative : e < 0 <;> simp [chars, ofInt, Numeral.exponentChars, Decimal.chars, negative]

end Power

/-! ## Literals -/

/-- The point and the digits behind it; without digits there is no point. -/
def fractionChars (fraction : List Digit) : List Char :=
  if fraction.isEmpty then [] else '.' :: fraction.map digitChar

structure Literal where
  negative : Bool
  whole : List Digit
  fraction : List Digit
  power : Option Power
  nonempty : whole ≠ []
  unpadded : whole.head? = some Decimal.zero → whole = [Decimal.zero]

namespace Literal

def chars (l : Literal) : List Char :=
  (if l.negative then ['-'] else []) ++
    (l.whole.map digitChar ++ (fractionChars l.fraction ++ l.power.elim [] Power.chars))

def text (l : Literal) : String := String.ofList l.chars

def IsInteger (l : Literal) : Prop := l.fraction = [] ∧ l.power = none

def numeral (l : Literal) : Numeral where
  negative := l.negative
  whole := l.whole
  fraction := l.fraction
  exponent := l.power.map Power.value

theorem plain_numeral (l : Literal) : l.numeral.Plain := ⟨l.nonempty, l.unpadded⟩

theorem isWhole_numeral_iff (l : Literal) : l.numeral.isWhole = true ↔ l.IsInteger := by
  simp [Numeral.isWhole, numeral, IsInteger]

def ofNumeral (n : Numeral) (plain : n.Plain) : Literal :=
  ⟨n.negative, n.whole, n.fraction, n.exponent.map Power.ofInt, plain.nonempty, plain.unpadded⟩

def ofInt (n : Int) : Literal := ofNumeral (.ofInt n) (Decimal.plain_of_whole_digits rfl)

theorem numeral_ofNumeral {n : Numeral} (plain : n.Plain) : (ofNumeral n plain).numeral = n := by
  have exponent : (n.exponent.map Power.ofInt).map Power.value = n.exponent := by
    cases n.exponent with
    | none => rfl
    | some e => exact congrArg some (Power.value_ofInt e)
  unfold ofNumeral numeral
  simp only [exponent]

theorem chars_ofNumeral {n : Numeral} (plain : n.Plain) : (ofNumeral n plain).chars = n.chars := by
  have power : (n.exponent.map Power.ofInt).elim [] Power.chars =
      n.exponent.elim [] Numeral.exponentChars := by
    cases n.exponent with
    | none => rfl
    | some e => exact Power.chars_ofInt e
  rw [chars, Numeral.chars, List.append_assoc, List.append_assoc, ← power]
  rfl

end Literal
end NamedSql.Json
