import NamedSql.Proofs.Decimal.Plain
import NamedSql.Proofs.Decimal.Shortest

namespace NamedSql.Decimal

/-! ## Finite floats -/

section
open Float.Model (Format UnpackedFloat)
open Float.Model.UnpackedFloat (unpack unpackExponent)

theorem isFinite_unpack (bits : BitVec 64) :
    (unpack Format.binary64 bits).isFinite = true ↔
      @unpackExponent Format.binary64 bits ≠ -.ofNat _ 1 := by
  unfold unpack
  by_cases special : @unpackExponent Format.binary64 bits = -.ofNat _ 1
  · rw [if_pos special, apply_ite UnpackedFloat.isFinite]
    change ite _ false false = true ↔ _
    rw [ite_self]
    exact iff_of_false Bool.false_ne_true fun ordinary => ordinary special
  · rw [if_neg special, apply_ite UnpackedFloat.isFinite, apply_dite UnpackedFloat.isFinite]
    change ite _ (dite _ (fun _ => true) (fun _ => true)) true = true ↔ _
    rw [dite_eq_ite, ite_self, ite_self]
    exact iff_of_true rfl special

theorem isFinite_iff (x : Float) :
    x.isFinite = true ↔ x.toBits.toNat / Binary.leadingBit % 0x800 ≠ 0x7FF := by
  have field : (@unpackExponent Format.binary64 x.toBits.toBitVec).toNat =
      x.toBits.toNat / Binary.leadingBit % 0x800 := by
    change (x.toBits.toNat >>> 52) % 2 ^ 11 = _
    rw [Nat.shiftRight_eq_div_pow]
    rfl
  rw [← field]
  refine (isFinite_unpack x.toBits.toBitVec).trans (not_congr ?_)
  rw [← BitVec.toNat_inj]
  rfl

end

theorem exists_finite_iff (bits : Nat) :
    (∃ negative m q, Binary.ofBits bits = .finite negative m q) ↔
      bits / Binary.leadingBit % 0x800 ≠ 0x7FF := by
  unfold Binary.ofBits
  simp only
  split
  · rename_i special
    split <;> simp [special]
  · rename_i ordinary
    split <;> simp [ordinary]

theorem isSome_numeral? (l : Layout) (x : Float) : (l.numeral? x).isSome = x.isFinite := by
  rw [Bool.eq_iff_iff, isFinite_iff, ← exists_finite_iff, Layout.numeral?, Binary.ofFloat]
  split
  · rename_i negative m q parts
    simp [parts]
  · rename_i other
    simpa using other

/-! ## The leading place -/

theorem bounds_of_ofBits {bits m : Nat} {negative : Bool} {q : Int}
    (parts : Binary.ofBits bits = .finite negative m q) :
    m < 2 * Binary.leadingBit ∧ -1074 ≤ q ∧ q ≤ 971 := by
  have fraction : bits % Binary.leadingBit < Binary.leadingBit := Nat.mod_lt _ (by decide)
  have biased : bits / Binary.leadingBit % 0x800 < 0x800 := Nat.mod_lt _ (by decide)
  unfold Binary.ofBits Binary.leastExponent at parts
  simp only at parts
  split at parts
  · split at parts <;> cases parts
  · split at parts
    · cases parts
      omega
    · cases parts
      omega

theorem log2_of_ofFloat {x : Float} {negative : Bool} {m : Nat} {q : Int}
    (parts : Binary.ofFloat x = .finite negative m q) (positive : 0 < m) :
    -1074 ≤ m.log2 + q ∧ m.log2 + q ≤ 1023 := by
  obtain ⟨small, low, high⟩ := bounds_of_ofBits parts
  have places : m.log2 < 53 := (Nat.log2_lt (Nat.ne_of_gt positive)).mpr small
  omega

/-! ## The numeral of a float -/

theorem exponent_shortest_nonpos {x : Float} {negative : Bool} {m : Nat} {q : Int}
    (parts : Binary.ofFloat x = .finite negative m q) (tie : Tie)
    (zeroes : (shortest m q tie).significand = 0) : (shortest m q tie).exponent ≤ 0 := by
  rcases Nat.eq_zero_or_pos m with rfl | positive
  · exact Int.le_refl 0
  · obtain ⟨low, high⟩ := log2_of_ofFloat parts positive
    have := significand_shortest_pos positive low high tie
    omega

theorem plain_of_numeral? {l : Layout} {x : Float} {n : Numeral} (shown : l.numeral? x = some n) :
    n.Plain := by
  unfold Layout.numeral? at shown
  split at shown
  · rename_i negative m q parts
    cases shown
    exact plain_numeral l negative (exponent_shortest_nonpos parts l.tie)
  · cases shown

theorem isWhole_of_numeral? {l : Layout} (shows : l.showsPoint = true) {x : Float} {n : Numeral}
    (shown : l.numeral? x = some n) : n.isWhole = false := by
  unfold Layout.numeral? at shown
  split at shown
  · cases shown
    exact isWhole_numeral shows _ _
  · cases shown

end NamedSql.Decimal
