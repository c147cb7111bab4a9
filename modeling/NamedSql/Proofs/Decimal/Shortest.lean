import NamedSql.Decimal.Shortest

/-!
# The shortest decimal of a number that is not zero

The search for a decimal starts above the number and ends far below it, on a grid whose step is no
greater than the number (`step_le_point`). The interval of a number that is not zero leaves zero
out, so no grid offers zero for it.

* `significand_shortest_pos`: a number that is not zero has no zero as its shortest decimal.
-/

namespace NamedSql.Decimal

/-! ## Powers -/

theorem upScale_pos {base : Nat} (positive : 0 < base) (e : Int) : 0 < upScale base e :=
  Nat.pow_pos positive

theorem upScale_of_nonpos (base : Nat) {e : Int} (nonpos : e ≤ 0) : upScale base e = 1 := by
  rw [upScale, Int.toNat_of_nonpos nonpos]
  rfl

theorem upScale_le {base : Nat} (positive : 0 < base) {d e : Int} (le : d ≤ e) :
    upScale base d ≤ upScale base e :=
  Nat.pow_le_pow_right positive (by omega)

theorem upScale_natCast_mul (base k : Nat) (e : Int) :
    upScale base (k * e) = upScale (Nat.pow base k) e := by
  have exponent : ((k : Int) * e).toNat = k * e.toNat := by
    rcases Int.le_total 0 e with nonneg | nonpos
    · obtain ⟨n, rfl⟩ := Int.eq_ofNat_of_zero_le nonneg
      exact Int.toNat_natCast (k * n)
    · rw [Int.toNat_of_nonpos nonpos, Nat.mul_zero]
      exact Int.toNat_of_nonpos (Int.mul_nonpos_of_nonneg_of_nonpos (Int.natCast_nonneg k) nonpos)
  rw [upScale, exponent]
  exact Nat.pow_mul base k e.toNat

theorem upScale_ten_le (e : Int) : upScale 10 (3 * e) ≤ upScale 2 (10 * e) := by
  rw [show (3 : Int) = (3 : Nat) from rfl, show (10 : Int) = (10 : Nat) from rfl,
    upScale_natCast_mul, upScale_natCast_mul]
  exact Nat.pow_le_pow_left (by decide) e.toNat

theorem upScale_two_le (e : Int) : upScale 2 (33 * e) ≤ upScale 10 (10 * e) := by
  rw [show (33 : Int) = (33 : Nat) from rfl, show (10 : Int) = (10 : Nat) from rfl,
    upScale_natCast_mul, upScale_natCast_mul]
  exact Nat.pow_le_pow_left (by decide) e.toNat

/-! ## The last grid -/

/-- The last power of ten that is tried is at most the number, whose leading binary place is `l`. -/
theorem lastPower_le {l k : Int} (low : -1074 ≤ l) (high : l ≤ 1023)
    (last : k = l * 1233 / 4096 - 18) :
    upScale 10 k * upScale 2 (-l) ≤ upScale 2 l * upScale 10 (-k) := by
  rcases Int.le_total 0 k with nonneg | nonpos
  · have places : upScale 10 k ≤ upScale 2 l :=
      calc upScale 10 k ≤ upScale 10 (3 * (k / 3 + 1)) := upScale_le (by decide) (by omega)
        _ ≤ upScale 2 (10 * (k / 3 + 1)) := upScale_ten_le _
        _ ≤ upScale 2 l := upScale_le (by decide) (by omega)
    rw [upScale_of_nonpos 2 (show -l ≤ 0 by omega), upScale_of_nonpos 10 (show -k ≤ 0 by omega)]
    omega
  · have places : upScale 2 (-l) ≤ upScale 10 (-k) :=
      calc upScale 2 (-l) ≤ upScale 2 (33 * (-l / 33 + 1)) := upScale_le (by decide) (by omega)
        _ ≤ upScale 10 (10 * (-l / 33 + 1)) := upScale_two_le _
        _ ≤ upScale 10 (-k) := upScale_le (by decide) (by omega)
    rw [upScale_of_nonpos 10 nonpos, Nat.one_mul]
    exact Nat.le_trans places (Nat.le_mul_of_pos_left _ (upScale_pos (by decide) l))

theorem step_le_point {m : Nat} {q k : Int} (positive : 0 < m) (low : -1074 ≤ m.log2 + q)
    (high : m.log2 + q ≤ 1023) (last : k = topPower m q - 20) :
    (Grid.of m q k).step ≤ (Grid.of m q k).point := by
  let l : Int := m.log2 + q
  have number : upScale 10 k * upScale 2 (-l) ≤ upScale 2 l * upScale 10 (-k) :=
    lastPower_le low high (by simp only [topPower] at last; omega)
  -- The quarter of the grid's unit and the leading place of the number, both in binary places.
  have quarter : upScale 2 (2 - q) * upScale 2 l =
      upScale 2 (m.log2 + 2) * upScale 2 (q - 2) * upScale 2 (-l) := by
    change (2 ^ _ * 2 ^ _ : Nat) = 2 ^ _ * 2 ^ _ * 2 ^ _
    rw [← Nat.pow_add, ← Nat.pow_add, ← Nat.pow_add]
    congr 1
    omega
  have leading : upScale 2 (m.log2 + 2) ≤ 4 * m := by
    have lead : 2 ^ m.log2 ≤ m := Nat.log2_self_le (Nat.ne_of_gt positive)
    change 2 ^ (m.log2 + 2) ≤ 4 * m
    rw [Nat.pow_succ, Nat.pow_succ]
    omega
  apply Nat.le_of_mul_le_mul_right _ (upScale_pos (by decide : 0 < 2) (-l))
  calc upScale 10 k * upScale 2 (2 - q) * upScale 2 (-l)
      = upScale 10 k * upScale 2 (-l) * upScale 2 (2 - q) := Nat.mul_right_comm _ _ _
    _ ≤ upScale 2 l * upScale 10 (-k) * upScale 2 (2 - q) := Nat.mul_le_mul_right _ number
    _ = upScale 2 (2 - q) * upScale 2 l * upScale 10 (-k) := by ac_rfl
    _ = upScale 2 (m.log2 + 2) * (upScale 2 (q - 2) * upScale 10 (-k)) * upScale 2 (-l) := by
        rw [quarter]
        ac_rfl
    _ ≤ 4 * m * (upScale 2 (q - 2) * upScale 10 (-k)) * upScale 2 (-l) :=
        Nat.mul_le_mul_right _ (Nat.mul_le_mul_right _ leading)

/-! ## The search -/

namespace Grid

theorem not_holds_zero {m : Nat} (positive : 0 < m) (q k : Int) :
    (Grid.of m q k).holds 0 = false := by
  have low : 0 < (Grid.of m q k).low := by
    refine Nat.mul_pos ?_ (Nat.mul_pos (upScale_pos (by decide) _) (upScale_pos (by decide) _))
    split <;> omega
  unfold holds
  split <;> simp only [Nat.zero_mul, Bool.and_eq_false_iff, decide_eq_false_iff_not] <;> omega

theorem floor_le_nearer (g : Grid) (tie : Tie) : g.floor ≤ g.nearer tie := by
  simp only [nearer]
  split
  · exact Nat.le_refl _
  · split
    · exact Nat.le_succ _
    · cases tie with
      | up => exact Nat.le_succ _
      | toEven => exact Nat.le_add_right _ _

theorem hit?_pos {m n : Nat} {q k : Int} {tie : Tie} (positive : 0 < m)
    (hit : (Grid.of m q k).hit? tie = some n) : 0 < n := by
  have zero := not_holds_zero positive q k
  have floor (holds : (Grid.of m q k).holds (Grid.of m q k).floor = true) :
      0 < (Grid.of m q k).floor := by
    rw [Nat.pos_iff_ne_zero]
    intro none
    rw [none, zero] at holds
    cases holds
  unfold hit? at hit
  split at hit
  · rename_i below _
    cases hit
    exact Nat.lt_of_lt_of_le (floor below) (floor_le_nearer _ tie)
  · rename_i below _
    cases hit
    exact floor below
  · cases hit
    exact Nat.succ_pos _
  · cases hit

end Grid

theorem significand_refine_pos {m : Nat} {q : Int} (positive : 0 < m) (tie : Tie) (steps : Nat)
    (k : Int) (reached : (Grid.of m q (k - steps)).step ≤ (Grid.of m q (k - steps)).point) :
    0 < (refine m q tie steps k).significand := by
  induction steps generalizing k with
  | zero =>
      rw [Int.natCast_zero, Int.sub_zero] at reached
      have step : 0 < (Grid.of m q k).step :=
        Nat.mul_pos (upScale_pos (by decide) _) (upScale_pos (by decide) _)
      exact Nat.lt_of_lt_of_le (Nat.div_pos reached step) (Grid.floor_le_nearer _ tie)
  | succ steps ih =>
      rw [refine]
      split
      · rename_i n hit
        exact Grid.hit?_pos positive hit
      · apply ih
        rwa [show k - 1 - (steps : Int) = k - (steps + 1 : Nat) by omega]

theorem significand_shortest_pos {m : Nat} {q : Int} (positive : 0 < m) (low : -1074 ≤ m.log2 + q)
    (high : m.log2 + q ≤ 1023) (tie : Tie) : 0 < (shortest m q tie).significand := by
  rw [shortest, if_neg (Nat.ne_of_gt positive)]
  exact significand_refine_pos positive tie 20 _ (step_le_point positive low high rfl)

end NamedSql.Decimal
