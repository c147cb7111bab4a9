import NamedSql.Json.Reader
import NamedSql.Proofs.Json.Literal

namespace NamedSql

namespace Decimal

theorem digitChar_ne_zero {d : Digit} (other : d ≠ zero) : digitChar d ≠ '0' := by
  intro same
  have := digit?_digitChar d
  rw [same] at this
  exact other (Option.some.inj this).symm

end Decimal

namespace Json
open Decimal (Digit Numeral digit? digitChar)

def EndsDigits (rest : List Char) : Prop := ∀ c ∈ rest.head?, digit? c = none

structure EndsNumber (rest : List Char) : Prop where
  digits : EndsDigits rest
  point : rest.head? ≠ some '.'
  exponent : rest.head? ≠ some 'e' ∧ rest.head? ≠ some 'E'

theorem endsDigits_cons {c : Char} (other : digit? c = none) (cs : List Char) :
    EndsDigits (c :: cs) := by
  intro d first
  rw [List.head?_cons, Option.mem_some_iff] at first
  exact first ▸ other

theorem takeDigits_of_ends {rest : List Char} (ends : EndsDigits rest) :
    takeDigits rest = ([], rest) := by
  cases rest with
  | nil => rfl
  | cons c cs => rw [takeDigits, ends c rfl]

theorem takeDigits_append (ds : List Digit) {rest : List Char} (ends : EndsDigits rest) :
    takeDigits (ds.map digitChar ++ rest) = (ds, rest) := by
  induction ds with
  | nil => exact takeDigits_of_ends ends
  | cons d ds ih => rw [List.map_cons, List.cons_append, takeDigits, Decimal.digit?_digitChar, ih]

theorem readWhole_append {n : Numeral} (plain : n.Plain) {rest : List Char}
    (ends : EndsDigits rest) :
    readWhole (n.whole.map digitChar ++ rest) = some (n.whole, rest) := by
  cases whole : n.whole with
  | nil => exact absurd whole plain.nonempty
  | cons d ds =>
      by_cases first : d = Decimal.zero
      · have alone := plain.unpadded (by rw [whole, first]; rfl)
        rw [whole, first, List.cons.injEq] at alone
        rw [first, alone.2]
        rfl
      · have taken := takeDigits_append (d :: ds) ends
        rw [List.map_cons, List.cons_append] at taken ⊢
        unfold readWhole
        split
        · rename_i same
          exact absurd (List.cons.inj same).1 (Decimal.digitChar_ne_zero first)
        · rw [taken]
          rfl

theorem readFraction_append (fraction : List Digit) {rest : List Char} (ends : EndsDigits rest)
    (point : rest.head? ≠ some '.') :
    readFraction (fractionChars fraction ++ rest) = some (fraction, rest) := by
  cases fraction with
  | nil =>
      change readFraction rest = _
      unfold readFraction
      split
      · exact absurd rfl point
      · rfl
  | cons d ds =>
      rw [fractionChars, if_neg (by simp), List.cons_append, readFraction,
        takeDigits_append (d :: ds) ends]
      rfl

theorem readPower_append (negative : Bool) {ds : List Digit} (some_digit : ds ≠ [])
    {rest : List Char} (ends : EndsDigits rest) :
    readPower negative (ds.map digitChar ++ rest) =
      some (some (if negative then -(Decimal.value ds : Int) else Decimal.value ds), rest) := by
  rw [readPower, takeDigits_append _ ends]
  simp only
  rw [List.isEmpty_eq_false_iff.mpr some_digit]
  rfl

theorem readExponent_of_letter {c : Char} (letter : c = 'e' ∨ c = 'E') (cs : List Char) :
    readExponent (c :: cs) = match cs with
      | '-' :: rest => readPower true rest
      | '+' :: rest => readPower false rest
      | rest => readPower false rest :=
  if_pos letter

theorem readExponent_chars (p : Power) {rest : List Char} (ends : EndsDigits rest) :
    readExponent (p.chars ++ rest) = some (some p.value, rest) := by
  have digits := fun negative => readPower_append negative p.nonempty ends
  have letter : (if p.capital then 'E' else 'e') = 'e' ∨ (if p.capital then 'E' else 'e') = 'E' := by
    cases p.capital
    · exact .inl rfl
    · exact .inr rfl
  rw [Power.chars, Power.value, List.cons_append, readExponent_of_letter letter]
  cases p.minus with
  | some minus =>
      cases minus with
      | true => exact digits true
      | false => exact digits false
  | none =>
      have unsigned := digits false
      obtain ⟨d, ds, filled⟩ := List.exists_cons_of_ne_nil p.nonempty
      rw [filled] at unsigned ⊢
      simp only [Option.elim_none, List.nil_append, List.map_cons, List.cons_append] at unsigned ⊢
      split
      · rename_i same
        exact absurd (List.cons.inj same).1 (Decimal.digitChar_ne_sign d).1
      · rename_i same
        exact absurd (List.cons.inj same).1 (Decimal.digitChar_ne_sign d).2
      · exact unsigned

theorem readExponent_append (power : Option Power) {rest : List Char} (ends : EndsNumber rest) :
    readExponent (power.elim [] Power.chars ++ rest) = some (power.map Power.value, rest) := by
  cases power with
  | some p => exact readExponent_chars p ends.digits
  | none =>
      cases rest with
      | nil => rfl
      | cons c cs =>
          have first : ¬(c = 'e' ∨ c = 'E') := by
            rintro (rfl | rfl)
            · exact ends.exponent.1 rfl
            · exact ends.exponent.2 rfl
          change (if c = 'e' ∨ c = 'E' then _ else _) = _
          rw [if_neg first]
          rfl

/-! ## Numerals -/

theorem endsNumber_nil : EndsNumber [] where
  digits := by simp [EndsDigits]
  point := by simp
  exponent := by simp

theorem endsNumber_cons {c : Char} (digit : digit? c = none) (point : c ≠ '.')
    (exponent : c ≠ 'e' ∧ c ≠ 'E') (cs : List Char) : EndsNumber (c :: cs) where
  digits := endsDigits_cons digit cs
  point := by simpa using point
  exponent := by simpa using exponent

theorem endsDigits_power (power : Option Power) {rest : List Char} (ends : EndsNumber rest) :
    EndsDigits (power.elim [] Power.chars ++ rest) ∧
      (power.elim [] Power.chars ++ rest).head? ≠ some '.' := by
  cases power with
  | none => exact ⟨ends.digits, ends.point⟩
  | some p =>
      rw [Option.elim_some, Power.chars]
      cases p.capital with
      | true => exact ⟨endsDigits_cons (by decide) _, by simp⟩
      | false => exact ⟨endsDigits_cons (by decide) _, by simp⟩

theorem endsDigits_fraction (fraction : List Digit) {rest : List Char} (ends : EndsDigits rest) :
    EndsDigits (fractionChars fraction ++ rest) := by
  cases fraction with
  | nil => exact ends
  | cons d ds => exact endsDigits_cons (by decide) _

theorem readUnsigned_append (l : Literal) {rest : List Char} (ends : EndsNumber rest) :
    readUnsigned l.negative (l.whole.map digitChar ++ (fractionChars l.fraction ++
      (l.power.elim [] Power.chars ++ rest))) = some (l.numeral, rest) := by
  obtain ⟨digits, point⟩ := endsDigits_power l.power ends
  have whole := readWhole_append l.plain_numeral (endsDigits_fraction l.fraction digits)
  rw [readUnsigned]
  change (readWhole (l.whole.map digitChar ++ _)).bind _ = _
  change readWhole (l.whole.map digitChar ++ _) = some (l.whole, _) at whole
  rw [whole, Option.bind_some]
  change (readFraction _).bind _ = _
  rw [readFraction_append l.fraction digits point, Option.bind_some]
  change (readExponent _).bind _ = _
  rw [readExponent_append l.power ends]
  rfl

theorem readNumber_literal (l : Literal) {rest : List Char} (ends : EndsNumber rest) :
    readNumber (l.chars ++ rest) = some (l.numeral, rest) := by
  have unsigned := readUnsigned_append l ends
  rw [Literal.chars, List.append_assoc, List.append_assoc, List.append_assoc]
  cases negative : l.negative with
  | true =>
      rw [negative] at unsigned
      exact unsigned
  | false =>
      rw [negative] at unsigned
      obtain ⟨d, ds, whole⟩ := List.exists_cons_of_ne_nil l.nonempty
      rw [whole] at unsigned ⊢
      simp only [Bool.false_eq_true, if_false, List.nil_append, List.map_cons,
        List.cons_append] at unsigned ⊢
      unfold readNumber
      split
      · rename_i same
        exact absurd (List.cons.inj same).1 (Decimal.digitChar_ne_sign d).1
      · exact unsigned

theorem readNumber_chars {n : Numeral} (plain : n.Plain) {rest : List Char}
    (ends : EndsNumber rest) : readNumber (n.chars ++ rest) = some (n, rest) := by
  have read := readNumber_literal (.ofNumeral n plain) ends
  rwa [Literal.chars_ofNumeral, Literal.numeral_ofNumeral] at read

end Json
end NamedSql
