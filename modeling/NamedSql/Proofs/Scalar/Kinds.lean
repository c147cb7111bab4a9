import NamedSql.Proofs.Json.Reading
import NamedSql.Scalar.Json

namespace NamedSql.Decimal

/-! ## Digits behind a number -/

def valueFrom (n : Nat) (ds : List Digit) : Nat := ds.foldl (fun n (d : Digit) => 10 * n + d.val) n

theorem valueFrom_cons (n : Nat) (d : Digit) (ds : List Digit) :
    valueFrom n (d :: ds) = valueFrom (10 * n + d.val) ds := rfl

theorem le_valueFrom (n : Nat) (ds : List Digit) : n ≤ valueFrom n ds := by
  induction ds generalizing n with
  | nil => exact Nat.le_refl n
  | cons d ds ih =>
      have rest := ih (10 * n + d.val)
      rw [valueFrom_cons]
      omega

theorem absorb_of_lt {n : Nat} {ds : List Digit} (small : valueFrom n ds < significandBound) :
    absorb n ds = (valueFrom n ds, []) := by
  induction ds generalizing n with
  | nil => rfl
  | cons d ds ih =>
      rw [valueFrom_cons] at small ⊢
      have first := le_valueFrom (10 * n + d.val) ds
      rw [absorb, if_pos (by omega), ih small]

theorem left_absorb_ne_nil {n : Nat} {ds : List Digit} (fits : n < significandBound)
    (large : significandBound ≤ valueFrom n ds) : (absorb n ds).2 ≠ [] := by
  induction ds generalizing n with
  | nil => exact absurd large (Nat.not_le.mpr fits)
  | cons d ds ih =>
      rw [absorb]
      split
      · rename_i further
        exact ih further large
      · exact List.cons_ne_nil d ds

theorem valueFrom_append (n : Nat) (ds es : List Digit) :
    valueFrom n (ds ++ es) = valueFrom (valueFrom n ds) es := List.foldl_append

theorem valueFrom_bounds (n : Nat) (ds : List Digit) :
    n * Nat.pow 10 ds.length ≤ valueFrom n ds ∧
      valueFrom n ds < (n + 1) * Nat.pow 10 ds.length := by
  induction ds generalizing n with
  | nil => exact ⟨Nat.le_of_eq (Nat.mul_one n), by simp [valueFrom]⟩
  | cons d ds ih =>
      obtain ⟨low, high⟩ := ih (10 * n + d.val)
      have places (m : Nat) : m * Nat.pow 10 (ds.length + 1) = 10 * m * Nat.pow 10 ds.length := by
        change m * (Nat.pow 10 ds.length * 10) = _
        rw [Nat.mul_comm _ 10, ← Nat.mul_assoc, Nat.mul_comm m 10]
      rw [valueFrom_cons, List.length_cons, places, places]
      constructor
      · exact Nat.le_trans (Nat.mul_le_mul_right _ (by omega)) low
      · exact Nat.lt_of_lt_of_le high (Nat.mul_le_mul_right _ (by omega))

theorem absorb_split (n : Nat) (ds : List Digit) :
    ∃ taken, ds = taken ++ (absorb n ds).2 ∧ (absorb n ds).1 = valueFrom n taken := by
  induction ds generalizing n with
  | nil => exact ⟨[], rfl, rfl⟩
  | cons d ds ih =>
      rw [absorb]
      split
      · obtain ⟨taken, split, number⟩ := ih (10 * n + d.val)
        exact ⟨d :: taken, congrArg (d :: ·) split, number⟩
      · exact ⟨[], rfl, rfl⟩

/-! ## Kinds -/

/-- A number times a power of ten has no float: the product of the nearest floats is infinite, or no
float reaches the power. -/
def OutOfRange (size power : Nat) : Prop :=
  if power ≤ greatestPower then (Float.ofNat size * powerOfTen power).isInf = true else 0 < size

theorem outOfRange_of_grow? {size power : Nat} (refused : grow? (Float.ofNat size) power = none) :
    OutOfRange size power := by
  unfold grow? at refused
  unfold OutOfRange
  split at refused
  · rename_i reached
    rw [if_pos reached]
    simp only at refused
    split at refused
    · assumption
    · cases refused
  · rename_i beyond
    rw [if_neg beyond]
    refine Nat.pos_of_ne_zero ?_
    rintro rfl
    have zero : (Float.ofNat 0 == 0) = true := by decide +kernel
    rw [if_pos zero] at refused
    cases refused

section
variable {n : Numeral}

theorem scaled_of_whole (whole : n.isWhole = true) :
    n.scaled = ((absorb 0 n.whole).1, ((absorb 0 n.whole).2.length : Int)) := by
  simp only [Numeral.isWhole, Bool.and_eq_true, List.isEmpty_iff, Option.isNone_iff_eq_none] at whole
  simp [Numeral.scaled, whole.1, whole.2, absorb]

theorem outOfRange_of_float? (whole : n.isWhole = true) (refused : n.float? = none) :
    ∃ size power : Nat, size * Nat.pow 10 power ≤ value n.whole ∧
      value n.whole < (size + 1) * Nat.pow 10 power ∧ OutOfRange size power := by
  obtain ⟨taken, split, number⟩ := absorb_split 0 n.whole
  have bounds := valueFrom_bounds (valueFrom 0 taken) (absorb 0 n.whole).2
  rw [← valueFrom_append, ← split, ← number] at bounds
  refine ⟨_, _, bounds.1, bounds.2, outOfRange_of_grow? ?_⟩
  rw [Numeral.float?, scaled_of_whole whole] at refused
  simpa using refused

theorem number?_of_float (parts : n.isWhole = false ∨ significandBound ≤ value n.whole) :
    n.number? = n.float?.map .float := by
  have other : (n.isWhole && (absorb 0 n.whole).2.isEmpty) = false := by
    rcases parts with broken | large
    · rw [broken, Bool.false_and]
    · have left := left_absorb_ne_nil (by decide) large
      rw [List.isEmpty_eq_false_iff.mpr left, Bool.and_false]
  rw [Numeral.number?]
  simp only
  rw [other]
  rfl

theorem float?_of_number? (refused : n.number? = none) : n.float? = none := by
  rw [Numeral.number?] at refused
  simp only at refused
  split at refused
  · split at refused <;> cases refused
  · exact Option.map_eq_none_iff.mp refused

theorem number?_of_whole (whole : n.isWhole = true) (small : value n.whole < significandBound) :
    n.number? = some (
      if n.negative then
        if 0 ≤ -Int64.ofNat (value n.whole) then .float (-Float.ofNat (value n.whole))
        else .signed (-Int64.ofNat (value n.whole))
      else .unsigned (.ofNat (value n.whole))) := by
  have absorbed : absorb 0 n.whole = (value n.whole, []) := absorb_of_lt small
  rw [Numeral.number?, absorbed]
  simp only
  rw [whole]
  cases n.negative <;> rfl

theorem toInt_opposite {size : Nat} (small : size < significandBound) :
    (-Int64.ofNat size).toInt = if size ≤ 0x8000000000000000 then -(size : Int)
      else 0x10000000000000000 - size := by
  unfold significandBound at small
  rw [← Int64.ofInt_eq_ofNat, ← Int64.ofInt_neg, Int64.toInt_ofInt]
  change (-(size : Int)).bmod 0x10000000000000000 = _
  rw [Int.bmod_def]
  omega

theorem number?_of_unsigned (whole : n.isWhole = true) (small : value n.whole < significandBound)
    (positive : n.negative = false) : n.number? = some (.unsigned (.ofNat (value n.whole))) := by
  rw [number?_of_whole whole small, positive]
  rfl

theorem number?_of_signed (whole : n.isWhole = true) (some_digit : 0 < value n.whole)
    (small : value n.whole ≤ 0x8000000000000000) (negative : n.negative = true) :
    n.number? = some (.signed (.ofInt (-value n.whole))) := by
  have bound : value n.whole < significandBound := Nat.lt_of_le_of_lt small (by decide)
  have opposite := toInt_opposite bound
  rw [if_pos small] at opposite
  have below : ¬0 ≤ -Int64.ofNat (value n.whole) := by
    rw [Int64.le_iff_toInt_le, opposite, Int64.toInt_zero]
    omega
  rw [number?_of_whole whole bound, if_pos negative, if_neg below, Int64.ofInt_neg,
    Int64.ofInt_eq_ofNat]

theorem number?_of_wrapped (whole : n.isWhole = true) (small : value n.whole < significandBound)
    (wraps : value n.whole = 0 ∨ 0x8000000000000000 < value n.whole) (negative : n.negative = true) :
    n.number? = some (.float (-Float.ofNat (value n.whole))) := by
  have opposite := toInt_opposite small
  unfold significandBound at small
  have nonneg : 0 ≤ -Int64.ofNat (value n.whole) := by
    rw [Int64.le_iff_toInt_le, opposite, Int64.toInt_zero]
    split <;> omega
  rw [number?_of_whole whole small, if_pos negative, if_pos nonneg]

end

/-! ## Scalars -/

def Numeral.integer (n : Numeral) : Int :=
  if n.negative then -(value n.whole : Int) else value n.whole

/-- The integer of a numeral is one of 64 signed bits, and a minus sign stands in front of no zero. -/
structure Numeral.FitsInteger (n : Numeral) : Prop where
  least : -0x8000000000000000 ≤ n.integer
  greatest : n.integer ≤ 0x7FFFFFFFFFFFFFFF
  signed : n.negative = true → n.integer ≠ 0

end NamedSql.Decimal

namespace NamedSql.Scalar
open Decimal (Numeral value significandBound)

variable {n : Numeral}

theorem ofNumeral?_of_float (parts : n.isWhole = false ∨ significandBound ≤ value n.whole) :
    ofNumeral? n = n.float?.map .float := by
  rw [ofNumeral?, Decimal.number?_of_float parts, Option.map_map]
  rfl

theorem ofNumber_unsigned {size : Nat} (small : size < significandBound) :
    ofNumber (.unsigned (.ofNat size)) =
      if size ≤ 0x7FFFFFFFFFFFFFFF then .int (.ofNat size) else .float (.ofNat size) := by
  have same : (UInt64.ofNat size).toNat = size := UInt64.toNat_ofNat_of_lt' small
  unfold ofNumber Decimal.Number.int? Decimal.Number.toFloat Decimal.greatestInteger
  simp only [same]
  by_cases fits : size ≤ 0x7FFFFFFFFFFFFFFF
  · rw [if_pos fits, if_pos fits]
  · rw [if_neg fits, if_neg fits]

theorem ofNumeral?_of_fits (whole : n.isWhole = true) (fits : n.FitsInteger) :
    ofNumeral? n = some (.int (.ofInt n.integer)) := by
  obtain ⟨least, greatest, signed⟩ := fits
  unfold Numeral.integer at *
  cases negative : n.negative with
  | true =>
      rw [if_pos negative] at least signed
      have some_digit := signed negative
      rw [ofNumeral?, Decimal.number?_of_signed whole (by omega) (by omega) negative]
      rfl
  | false =>
      rw [if_neg (by simp [negative])] at greatest
      have small : value n.whole < significandBound := by unfold significandBound; omega
      rw [ofNumeral?, Decimal.number?_of_unsigned whole small negative, Option.map_some,
        ofNumber_unsigned small, if_pos (by omega), ← Int64.ofInt_eq_ofNat]
      rfl

theorem ofNumeral?_of_not_fits (whole : n.isWhole = true) (small : value n.whole < significandBound)
    (other : ¬n.FitsInteger) :
    ofNumeral? n = some (.float (if n.negative then -Float.ofNat (value n.whole)
      else Float.ofNat (value n.whole))) := by
  cases negative : n.negative with
  | true =>
      have integer : n.integer = -value n.whole := if_pos negative
      have wraps : value n.whole = 0 ∨ 0x8000000000000000 < value n.whole :=
        Decidable.byContradiction fun ordinary =>
          other ⟨by omega, by omega, fun _ => by omega⟩
      rw [ofNumeral?, Decimal.number?_of_wrapped whole small wraps negative]
      rfl
  | false =>
      have large : ¬value n.whole ≤ 0x7FFFFFFFFFFFFFFF := by
        intro within
        have integer : n.integer = value n.whole := if_neg (by simp [negative])
        refine other ⟨by omega, by omega, fun minus => ?_⟩
        rw [negative] at minus
        cases minus
      rw [ofNumeral?, Decimal.number?_of_unsigned whole small negative, Option.map_some,
        ofNumber_unsigned small, if_neg large]
      rfl

/-! ## Literals -/

section
open Json (Literal)

theorem whole_eq_zero (l : Literal) (none : value l.whole = 0) : l.whole = [Decimal.zero] := by
  obtain ⟨d, ds, whole⟩ := List.exists_cons_of_ne_nil l.nonempty
  have first : d.val ≤ value (d :: ds) := by
    have := Decimal.le_valueFrom (10 * 0 + d.val) ds
    rw [← Decimal.valueFrom_cons] at this
    change _ ≤ value (d :: ds) at this
    omega
  rw [← whole, none, Nat.le_zero] at first
  have zero : d = Decimal.zero := Fin.ext first
  exact l.unpadded (by rw [whole, zero]; rfl)

def minusZero : Literal := ⟨true, [Decimal.zero], [], none, by decide, by decide⟩

theorem text_minusZero : minusZero.text = "-0" := rfl

theorem text_eq_minus_zero_iff {l : Literal} (integer : l.IsInteger) :
    l.text = "-0" ↔ l.negative = true ∧ l.numeral.integer = 0 := by
  constructor
  · intro same
    -- The two literals have one text, from which their numerals are read.
    have read := Json.parse_literal l
    rw [same, ← text_minusZero, Json.parse_literal, Option.some.injEq, Json.number.injEq] at read
    exact ⟨congrArg Numeral.negative read.symm, congrArg Numeral.integer read.symm⟩
  · rintro ⟨negative, none⟩
    have size : value l.whole = 0 := by
      unfold Numeral.integer Literal.numeral at none
      simp only [negative, if_true] at none
      omega
    have chars : l.chars = ['-', '0'] := by
      rw [Literal.chars, negative, whole_eq_zero l size, integer.1, integer.2]
      rfl
    rw [Literal.text, chars]

theorem fitsInteger_iff {l : Literal} (integer : l.IsInteger) :
    l.numeral.FitsInteger ↔ -0x8000000000000000 ≤ l.numeral.integer ∧
      l.numeral.integer ≤ 0x7FFFFFFFFFFFFFFF ∧ l.text ≠ "-0" := by
  rw [ne_eq, text_eq_minus_zero_iff integer]
  constructor
  · rintro ⟨least, greatest, signed⟩
    exact ⟨least, greatest, fun minus => signed minus.1 minus.2⟩
  · rintro ⟨least, greatest, other⟩
    exact ⟨least, greatest, fun negative zero => other ⟨negative, zero⟩⟩

def ofText? (text : String) : Option Scalar := (Json.parse text).bind ofJson?

theorem ofText?_literal (l : Literal) : ofText? l.text = ofNumeral? l.numeral := by
  rw [ofText?, Json.parse_literal]
  rfl

theorem ofText?_integer {l : Literal} (integer : l.IsInteger) (fits : l.numeral.FitsInteger) :
    ofText? l.text = some (.int (.ofInt l.numeral.integer)) := by
  rw [ofText?_literal, ofNumeral?_of_fits (l.isWhole_numeral_iff.mpr integer) fits]

theorem natAbs_integer (n : Numeral) : n.integer.natAbs = value n.whole := by
  unfold Numeral.integer
  split <;> omega

theorem ofText?_of_not_fits {l : Literal} (integer : l.IsInteger)
    (small : l.numeral.integer.natAbs < significandBound) (other : ¬l.numeral.FitsInteger) :
    ofText? l.text = some (.float (if l.negative then -Float.ofNat l.numeral.integer.natAbs
      else Float.ofNat l.numeral.integer.natAbs)) := by
  have whole := l.isWhole_numeral_iff.mpr integer
  rw [natAbs_integer] at small ⊢
  rw [ofText?_literal, ofNumeral?_of_not_fits whole small other]
  rfl

theorem ofText?_of_float {l : Literal}
    (other : ¬l.IsInteger ∨ significandBound ≤ l.numeral.integer.natAbs) :
    ofText? l.text = l.numeral.float?.map .float := by
  rw [natAbs_integer] at other
  rw [ofText?_literal, ofNumeral?_of_float]
  rcases other with parts | large
  · exact .inl (Bool.eq_false_iff.mpr fun whole => parts (l.isWhole_numeral_iff.mp whole))
  · exact .inr large

theorem isInteger_of_int {l : Literal} {i : Int64} (read : ofText? l.text = some (.int i)) :
    l.IsInteger ∧ l.numeral.FitsInteger := by
  by_cases whole : ¬l.IsInteger ∨ significandBound ≤ l.numeral.integer.natAbs
  · rw [ofText?_of_float whole] at read
    cases float : l.numeral.float? with
    | none => rw [float] at read; cases read
    | some x => rw [float] at read; cases read
  · have integer : l.IsInteger := Classical.byContradiction fun parts => whole (.inl parts)
    have small : l.numeral.integer.natAbs < significandBound :=
      Nat.lt_of_not_le fun large => whole (.inr large)
    refine ⟨integer, Classical.byContradiction fun other => ?_⟩
    rw [ofText?_of_not_fits integer small other] at read
    cases read

theorem ofText?_eq_int_iff (l : Literal) (i : Int64) :
    ofText? l.text = some (.int i) ↔
      l.IsInteger ∧ l.text ≠ "-0" ∧ i.toInt = l.numeral.integer := by
  have range := i.le_toInt
  have range' := i.toInt_lt
  constructor
  · intro read
    obtain ⟨integer, fits⟩ := isInteger_of_int read
    have bounds := (fitsInteger_iff integer).mp fits
    rw [ofText?_integer integer fits, Option.some.injEq, Scalar.int.injEq] at read
    refine ⟨integer, bounds.2.2, ?_⟩
    rw [← read, Int64.toInt_ofInt_of_le bounds.1]
    have := bounds.2.1
    omega
  · rintro ⟨integer, other, same⟩
    have fits : l.numeral.FitsInteger :=
      (fitsInteger_iff integer).mpr ⟨by omega, by omega, other⟩
    rw [ofText?_integer integer fits, ← same, Int64.ofInt_toInt]

theorem outOfRange_of_ofText? {l : Literal} (integer : l.IsInteger)
    (refused : ofText? l.text = none) :
    ∃ size power : Nat, size * Nat.pow 10 power ≤ l.numeral.integer.natAbs ∧
      l.numeral.integer.natAbs < (size + 1) * Nat.pow 10 power ∧
      Decimal.OutOfRange size power := by
  rw [ofText?_literal, ofNumeral?, Option.map_eq_none_iff] at refused
  rw [natAbs_integer]
  exact Decimal.outOfRange_of_float? (l.isWhole_numeral_iff.mpr integer)
    (Decimal.float?_of_number? refused)

theorem literal_decoded (l : Literal) :
    (∀ i : Int64, ofText? l.text = some (.int i) ↔
      l.IsInteger ∧ l.text ≠ "-0" ∧ i.toInt = l.numeral.integer) ∧
    (l.IsInteger → (ofText? l.text = some (.int (.ofInt l.numeral.integer)) ↔
      -0x8000000000000000 ≤ l.numeral.integer ∧ l.numeral.integer ≤ 0x7FFFFFFFFFFFFFFF ∧
        l.text ≠ "-0")) ∧
    (l.IsInteger → (∀ i : Int64, ofText? l.text ≠ some (.int i)) →
      l.numeral.integer.natAbs < 0x10000000000000000 →
      ofText? l.text = some (.float (if l.negative then -Float.ofNat l.numeral.integer.natAbs
        else Float.ofNat l.numeral.integer.natAbs))) ∧
    (¬l.IsInteger ∨ 0x10000000000000000 ≤ l.numeral.integer.natAbs →
      (∃ x, l.numeral.float? = some x ∧ ofText? l.text = some (.float x)) ∨
      (l.numeral.float? = none ∧ ofText? l.text = none)) ∧
    (l.IsInteger → ofText? l.text = none →
      ∃ size power : Nat, size * Nat.pow 10 power ≤ l.numeral.integer.natAbs ∧
        l.numeral.integer.natAbs < (size + 1) * Nat.pow 10 power ∧
        Decimal.OutOfRange size power) := by
  refine ⟨ofText?_eq_int_iff l, fun integer => ?_, fun integer other small => ?_, fun other => ?_,
    outOfRange_of_ofText?⟩
  · rw [← fitsInteger_iff integer]
    exact ⟨fun read => (isInteger_of_int read).2, ofText?_integer integer⟩
  · exact ofText?_of_not_fits integer small fun fits => other _ (ofText?_integer integer fits)
  · rw [ofText?_of_float other]
    cases float : l.numeral.float? with
    | none => exact .inr ⟨rfl, rfl⟩
    | some x => exact .inl ⟨x, rfl, rfl⟩

def hundred : Literal :=
  ⟨false, Decimal.digits 1, [], some ⟨false, none, Decimal.digits 2, Decimal.digits_ne_nil 2⟩,
    Decimal.digits_ne_nil 1, by decide +kernel⟩

theorem literal_decoded_bounds :
    ofText? "-9223372036854775808" = some (.int (-9223372036854775808)) ∧
    ofText? "9223372036854775808" = some (.float 9223372036854775808.0) ∧
    ofText? "-0" = some (.float (-0.0)) ∧
    ofText? "1e2" = some (.float 100.0) := by
  refine ⟨?_, ?_, ?_, ?_⟩
  · have text : (Literal.ofInt (-9223372036854775808)).text = "-9223372036854775808" := by
      decide +kernel
    rw [← text]
    exact ((literal_decoded _).1 _).mpr ⟨⟨rfl, rfl⟩, by decide +kernel, by decide +kernel⟩
  · have text : (Literal.ofInt 9223372036854775808).text = "9223372036854775808" := by
      decide +kernel
    have integer : (Literal.ofInt 9223372036854775808).numeral.integer = 9223372036854775808 := by
      decide +kernel
    have decoded := literal_decoded (Literal.ofInt 9223372036854775808)
    have other : ∀ i : Int64, ofText? (Literal.ofInt 9223372036854775808).text ≠ some (.int i) := by
      intro i read
      have same := ((decoded.1 i).mp read).2.2
      have := i.toInt_lt
      omega
    rw [← text, decoded.2.2.1 ⟨rfl, rfl⟩ other (by omega)]
    decide +kernel
  · have decoded := literal_decoded minusZero
    have other : ∀ i : Int64, ofText? minusZero.text ≠ some (.int i) := fun i read =>
      ((decoded.1 i).mp read).2.1 text_minusZero
    rw [← text_minusZero, decoded.2.2.1 ⟨rfl, rfl⟩ other (by decide)]
    decide +kernel
  · have text : hundred.text = "1e2" := by decide +kernel
    have power : ¬hundred.IsInteger := fun integer => by cases integer.2
    rw [← text]
    obtain ⟨x, float, read⟩ | ⟨large, -⟩ := (literal_decoded hundred).2.2.2.1 (.inl power)
    · have same : hundred.numeral.float? = some 100.0 := by decide +kernel
      rw [read, Option.some.inj (float.symm.trans same)]
    · exact absurd large (by decide +kernel)

end

end NamedSql.Scalar
