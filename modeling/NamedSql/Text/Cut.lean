/-!
# The start of a text within a byte budget

A boundary is a byte offset in a text that splits no character. From the budget `backToBoundary`
goes back to one, and `cut` keeps what is in front of it. Taking what is in front of an offset fails
where the offset is no boundary; that `cut` never does so is part of its definition.

* `isBoundary_iff`: at a boundary a text falls into two texts.
* `isBoundary_backToBoundary`, `le_backToBoundary`: going back finds the last boundary.
* `before?_append`: what is in front of a boundary is the first of the two texts.
-/

namespace NamedSql.Text

/-! ## Boundaries -/

/-- Whether a byte offset is the start of a character, or the end of the text. -/
def isBoundary (s : String) (offset : Nat) : Bool := String.Pos.Raw.isValid s ⟨offset⟩

/-- Goes back from a byte offset, a byte at a time, to a boundary. The start of a text is one. -/
def backToBoundary (s : String) : Nat → Nat
  | 0 => 0
  | offset + 1 => if isBoundary s (offset + 1) then offset + 1 else backToBoundary s offset

def before? (s : String) (offset : Nat) : Option String :=
  if h : String.Pos.Raw.IsValid s ⟨offset⟩ then some (s.sliceTo (s.pos ⟨offset⟩ h)).copy else none

theorem isBoundary_iff {s : String} {offset : Nat} :
    isBoundary s offset = true ↔ ∃ t u, s = t ++ u ∧ t.utf8ByteSize = offset := by
  rw [isBoundary, String.Pos.Raw.isValid_eq_true_iff, String.Pos.Raw.isValid_iff_exists_append]
  simp only [String.Pos.Raw.ext_iff, String.byteIdx_rawEndPos, eq_comm]

theorem isBoundary_backToBoundary (s : String) (offset : Nat) :
    isBoundary s (backToBoundary s offset) = true := by
  induction offset with
  | zero => exact isBoundary_iff.mpr ⟨"", s, by simp, rfl⟩
  | succ offset ih =>
      rw [backToBoundary]
      split
      · assumption
      · exact ih

theorem backToBoundary_le (s : String) (offset : Nat) : backToBoundary s offset ≤ offset := by
  induction offset with
  | zero => exact Nat.le_refl 0
  | succ offset ih =>
      rw [backToBoundary]
      split
      · exact Nat.le_refl _
      · omega

theorem le_backToBoundary {s : String} {offset i : Nat} (boundary : isBoundary s i = true)
    (within : i ≤ offset) : i ≤ backToBoundary s offset := by
  induction offset with
  | zero => exact within
  | succ offset ih =>
      rw [backToBoundary]
      split
      · exact within
      · rename_i inside
        have other : i ≠ offset + 1 := by
          rintro rfl
          exact inside boundary
        exact ih (by omega)

theorem before?_append (t u : String) : before? (t ++ u) t.utf8ByteSize = some t := by
  have valid : String.Pos.Raw.IsValid (t ++ u) ⟨t.utf8ByteSize⟩ :=
    String.Pos.Raw.isValid_iff_exists_append.mpr ⟨t, u, rfl, rfl⟩
  rw [before?, dif_pos valid, String.copy_sliceTo_eq_iff_exists_splits.mpr]
  exact ⟨u, rfl, rfl⟩

/-! ## Cutting -/

/-- The text as far as the budget reaches, taken up to the last boundary if that is not all of it. -/
def cut? (budget : Nat) (s : String) : Option String :=
  if s.utf8ByteSize ≤ budget then some s else before? s (backToBoundary s budget)

theorem isSome_cut? (budget : Nat) (s : String) : (cut? budget s).isSome = true := by
  obtain ⟨t, u, rfl, stop⟩ := isBoundary_iff.mp (isBoundary_backToBoundary s budget)
  rw [cut?]
  split
  · rfl
  · rw [← stop, before?_append]
    rfl

/-- The longest start of a text that fits into `budget` bytes and splits no character. -/
def cut (budget : Nat) (s : String) : String := (cut? budget s).get (isSome_cut? budget s)

end NamedSql.Text
