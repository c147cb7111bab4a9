import NamedSql.Text.Cut

namespace NamedSql.Text

/-- The longest start of a text that fits into `budget` bytes. A start of a text is made of whole
characters. -/
structure LongestStart (budget : Nat) (text start : String) : Prop where
  starts : start.toList <+: text.toList
  fits : start.utf8ByteSize ≤ budget
  longest : ∀ other : String, other.toList <+: text.toList → other.utf8ByteSize ≤ budget →
    other.toList <+: start.toList

theorem cut?_eq_some (budget : Nat) (s : String) : cut? budget s = some (cut budget s) :=
  (Option.some_get (isSome_cut? budget s)).symm

theorem cut_of_le {budget : Nat} {s : String} (fits : s.utf8ByteSize ≤ budget) :
    cut budget s = s := by
  have whole := cut?_eq_some budget s
  rw [cut?, if_pos fits] at whole
  exact (Option.some.inj whole).symm

theorem before?_of_lt {budget : Nat} {s : String} (long : budget < s.utf8ByteSize) :
    before? s (backToBoundary s budget) = some (cut budget s) := by
  rw [← cut?_eq_some, cut?, if_neg (Nat.not_le.mpr long)]

theorem cut_split_of_lt {budget : Nat} {s : String} (long : budget < s.utf8ByteSize) :
    ∃ rest, s = cut budget s ++ rest ∧
      (cut budget s).utf8ByteSize = backToBoundary s budget := by
  obtain ⟨start, rest, split, stop⟩ := isBoundary_iff.mp (isBoundary_backToBoundary s budget)
  have kept : start = cut budget s := by
    have taken := before?_append start rest
    rw [← split, stop, before?_of_lt long] at taken
    exact (Option.some.inj taken).symm
  exact ⟨rest, kept ▸ split, kept ▸ stop⟩

theorem cut_split (budget : Nat) (s : String) :
    (∃ rest, s = cut budget s ++ rest) ∧ (cut budget s).utf8ByteSize ≤ budget ∧
      ∀ i, isBoundary s i = true → i ≤ budget → i ≤ (cut budget s).utf8ByteSize := by
  by_cases fits : s.utf8ByteSize ≤ budget
  · rw [cut_of_le fits]
    refine ⟨⟨"", by simp⟩, fits, fun i boundary _ => ?_⟩
    obtain ⟨t, u, rfl, rfl⟩ := isBoundary_iff.mp boundary
    simp
  · obtain ⟨rest, split, stop⟩ := cut_split_of_lt (Nat.not_le.mp fits)
    rw [stop]
    exact ⟨⟨rest, split⟩, backToBoundary_le s budget, fun i => le_backToBoundary⟩

theorem prefix_of_boundary {front rest other : String}
    (starts : other.toList <+: (front ++ rest).toList)
    (short : other.utf8ByteSize ≤ front.utf8ByteSize) : other.toList <+: front.toList := by
  rw [String.toList_append] at starts
  rcases List.prefix_or_prefix_of_prefix starts (List.prefix_append _ rest.toList) with within | past
  · exact within
  · obtain ⟨more, split⟩ := past
    have longer : other = front ++ String.ofList more := by
      rw [← String.toList_inj, String.toList_append, String.toList_ofList, split]
    rw [longer, String.utf8ByteSize_append] at short
    have none : String.ofList more = "" := String.utf8ByteSize_eq_zero_iff.mp (by omega)
    have same : other = front := by rw [longer, none, String.append_empty]
    exact same ▸ List.prefix_rfl

theorem longestStart_cut (budget : Nat) (text : String) :
    LongestStart budget text (cut budget text) := by
  obtain ⟨⟨rest, split⟩, fits, last⟩ := cut_split budget text
  refine ⟨⟨rest.toList, ?_⟩, fits, fun other starts within => ?_⟩
  · rw [← String.toList_append, ← split]
  · -- Where another start ends is a boundary as well, and the cut is at the last one.
    obtain ⟨more, whole⟩ := starts
    have boundary : isBoundary text other.utf8ByteSize = true := by
      refine isBoundary_iff.mpr ⟨other, String.ofList more, ?_, rfl⟩
      rw [← String.toList_inj, String.toList_append, String.toList_ofList, whole]
    have starts : other.toList <+: (cut budget text ++ rest).toList := by
      rw [← split]
      exact ⟨more, whole⟩
    exact prefix_of_boundary starts (last _ boundary within)

example : cut 2 "aé" = "a" ∧ cut 3 "aé" = "aé" := by decide +kernel

theorem lt_utf8ByteSize_cut {budget : Nat} {s : String} (long : budget < s.utf8ByteSize) :
    budget < (cut budget s).utf8ByteSize + 4 := by
  obtain ⟨⟨rest, split⟩, within, last⟩ := cut_split budget s
  cases chars : rest.toList with
  | nil =>
      have none : rest = "" := String.toList_eq_nil_iff.mp chars
      rw [none, String.append_empty] at split
      rw [← split] at within
      omega
  | cons c cs =>
      have next : rest = String.singleton c ++ String.ofList cs := by
        rw [← String.toList_inj, chars, String.toList_append, String.toList_ofList,
          String.toList_singleton, List.singleton_append]
      have boundary : isBoundary s ((cut budget s).utf8ByteSize + c.utf8Size) = true := by
        refine isBoundary_iff.mpr ⟨cut budget s ++ String.singleton c, String.ofList cs, ?_, ?_⟩
        · rw [String.append_assoc, ← next, ← split]
        · rw [String.utf8ByteSize_append, String.utf8ByteSize_singleton]
      have past := last _ boundary
      have := c.utf8Size_pos
      have := c.utf8Size_le_four
      omega

theorem cut_at_boundary (budget : Nat) (s : String) :
    (∃ front rest, s = front ++ rest ∧ front.utf8ByteSize = backToBoundary s budget) ∧
    backToBoundary s budget ≤ budget ∧
    (∀ i, backToBoundary s budget < i → i ≤ budget → isBoundary s i = false) ∧
    (budget < s.utf8ByteSize → budget ≤ backToBoundary s budget + 3 ∧
      before? s (backToBoundary s budget) = some (cut budget s)) ∧
    LongestStart budget s (cut budget s) ∧
    (cut budget s = s ↔ s.utf8ByteSize ≤ budget) ∧
    (budget < s.utf8ByteSize → budget < (cut budget s).utf8ByteSize + 4) := by
  refine ⟨isBoundary_iff.mp (isBoundary_backToBoundary s budget), backToBoundary_le s budget, ?_,
    ?_, longestStart_cut budget s, ?_, lt_utf8ByteSize_cut⟩
  · intro i past within
    rw [Bool.eq_false_iff]
    intro boundary
    exact absurd (le_backToBoundary boundary within) (Nat.not_le.mpr past)
  · intro long
    obtain ⟨-, -, stop⟩ := cut_split_of_lt long
    have near := lt_utf8ByteSize_cut long
    exact ⟨by omega, before?_of_lt long⟩
  · constructor
    · intro whole
      have fits := (longestStart_cut budget s).fits
      rwa [whole] at fits
    · exact cut_of_le

theorem cut_at_boundary_inside :
    (cut 6 "aé😀b" = "aé" ∧ LongestStart 6 "aé😀b" "aé" ∧ 6 < "aé".utf8ByteSize + 4) ∧
    (cut 3 "😀" = "" ∧ LongestStart 3 "😀" "" ∧ 3 < "".utf8ByteSize + 4) := by
  have within : cut 6 "aé😀b" = "aé" := by decide +kernel
  have first : cut 3 "😀" = "" := by decide +kernel
  obtain ⟨-, -, -, -, longest, -, near⟩ := cut_at_boundary 6 "aé😀b"
  obtain ⟨-, -, -, -, longest', -, near'⟩ := cut_at_boundary 3 "😀"
  rw [within] at longest near
  rw [first] at longest' near'
  exact ⟨⟨within, longest, near (by decide +kernel)⟩, first, longest', near' (by decide +kernel)⟩

end NamedSql.Text
