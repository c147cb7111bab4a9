import NamedSql.Decimal.Layout

namespace NamedSql.Decimal

/-- Digits before the point as JSON wants them: some, and no zero in front of others. -/
structure Numeral.Plain (n : Numeral) : Prop where
  nonempty : n.whole ≠ []
  unpadded : n.whole.head? = some zero → n.whole = [zero]

theorem digits_zero : digits 0 = [zero] := by
  rw [digits]
  rfl

theorem eq_zero_of_head_digits {n : Nat} (first : (digits n).head? = some zero) : n = 0 := by
  fun_induction digits n with
  | case1 n small =>
      have digit : n % 10 = 0 := by simpa [zero] using congrArg (Option.map Fin.val) first
      rwa [Nat.mod_eq_of_lt small] at digit
  | case2 n large ih =>
      obtain ⟨d, ds, split⟩ := List.exists_cons_of_ne_nil (digits_ne_nil (n / 10))
      rw [split] at first ih
      have := ih first
      omega

theorem plain_of_whole_digits {n : Numeral} {size : Nat} (whole : n.whole = digits size) :
    n.Plain where
  nonempty := whole ▸ digits_ne_nil size
  unpadded := by
    intro first
    rw [whole] at first ⊢
    rw [eq_zero_of_head_digits first, digits_zero]

/-! ## Layouts -/

theorem positions_plain {m : Nat} {k : Int} (zeroes : m = 0 → k ≤ 0) :
    (positions (digits m) k).1 ≠ [] ∧
      ((positions (digits m) k).1.head? = some zero → (positions (digits m) k).1 = [zero]) := by
  obtain ⟨d, ds, split_digits⟩ := List.exists_cons_of_ne_nil (digits_ne_nil m)
  unfold positions
  simp only
  split
  · rename_i few
    rw [List.splitAt_eq]
    obtain ⟨count, some_digits⟩ := Nat.exists_eq_succ_of_ne_zero (Nat.sub_ne_zero_of_lt few)
    rw [some_digits, split_digits, List.cons_append, List.take_succ_cons]
    refine ⟨List.cons_ne_nil _ _, fun first => ?_⟩
    -- Only zero starts with a zero, and no zero is appended to it.
    have none : m = 0 := eq_zero_of_head_digits (by rw [split_digits]; exact first)
    have nonpos := zeroes none
    rw [none, digits_zero] at split_digits
    obtain ⟨rfl, rfl⟩ := List.cons.inj split_digits
    rw [Int.toNat_of_nonpos nonpos]
    simp
  · exact ⟨List.cons_ne_nil _ _, fun _ => rfl⟩

theorem plain_numeral (l : Layout) (negative : Bool) {x : Scaled}
    (zeroes : x.significand = 0 → x.exponent ≤ 0) : (l.numeral negative x).Plain := by
  unfold Layout.numeral
  simp only
  split
  · obtain ⟨nonempty, unpadded⟩ := positions_plain zeroes
    exact ⟨nonempty, unpadded⟩
  · obtain ⟨d, ds, split_digits⟩ := List.exists_cons_of_ne_nil (digits_ne_nil x.significand)
    rw [split_digits]
    refine ⟨List.cons_ne_nil _ _, fun first => ?_⟩
    rw [Option.some.inj first]
    rfl

theorem isWhole_numeral {l : Layout} (shows : l.showsPoint = true) (negative : Bool) (x : Scaled) :
    (l.numeral negative x).isWhole = false := by
  unfold Layout.numeral Numeral.isWhole
  simp only
  split
  · simp only [shows, Bool.and_true]
    split <;> simp_all
  · simp

end NamedSql.Decimal
