/-!
# The order of texts and of their bytes

In UTF-8 the first byte of a character tells how many there are, and each byte after it holds six
bits more. So the codes of two characters differ at some place, neither being the start of the
other, and at the first such place the smaller character has the smaller byte.

* `bytes_lt_iff`: texts compare by their bytes as they do by their code points.
-/

namespace NamedSql.Text

/-- Two codes differ, and at the first place where they do the first one has the smaller byte. -/
def DiffersBelow : List UInt8 → List UInt8 → Prop
  | x :: xs, y :: ys => x < y ∨ x = y ∧ DiffersBelow xs ys
  | _, _ => False

theorem DiffersBelow.append {xs ys : List UInt8} (below : DiffersBelow xs ys)
    (us vs : List UInt8) : DiffersBelow (xs ++ us) (ys ++ vs) := by
  induction xs generalizing ys with
  | nil => exact below.elim
  | cons x xs ih =>
      cases ys with
      | nil => exact below.elim
      | cons y ys => exact below.imp id fun ⟨same, rest⟩ => ⟨same, ih rest⟩

theorem DiffersBelow.lt {xs ys : List UInt8} (below : DiffersBelow xs ys) : xs < ys := by
  induction xs generalizing ys with
  | nil => exact below.elim
  | cons x xs ih =>
      cases ys with
      | nil => exact below.elim
      | cons y ys =>
          rw [List.cons_lt_cons_iff]
          exact below.imp id fun ⟨same, rest⟩ => ⟨same, ih rest⟩

theorem differsBelow_append_left (xs : List UInt8) {us vs : List UInt8}
    (below : DiffersBelow us vs) : DiffersBelow (xs ++ us) (xs ++ vs) := by
  induction xs with
  | nil => exact below
  | cons x xs ih => exact .inr ⟨rfl, ih⟩

theorem ofNat_lt_ofNat {m n : Nat} (below : m < n) (fits : n < 256) :
    UInt8.ofNat m < UInt8.ofNat n := by
  rw [UInt8.lt_iff_toNat_lt, UInt8.toNat_ofNat', UInt8.toNat_ofNat']
  omega

theorem differsBelow_lead {m n : Nat} (below : m < n) (fits : n < 256) (xs ys : List UInt8) :
    DiffersBelow (UInt8.ofNat m :: xs) (UInt8.ofNat n :: ys) :=
  .inl (ofNat_lt_ofNat below fits)

/-! ## Codes of numbers -/

def KeepsOrder (code : Nat → List UInt8) (bound : Nat) : Prop :=
  ∀ ⦃m n : Nat⦄, m < n → n < bound → DiffersBelow (code m) (code n)

theorem keepsOrder_lead (size lead : Nat) (fits : lead + size ≤ 256) :
    KeepsOrder (fun n => [UInt8.ofNat (n % size + lead)]) size := by
  intro m n below inside
  have small : m % size = m := Nat.mod_eq_of_lt (Nat.lt_trans below inside)
  have large : n % size = n := Nat.mod_eq_of_lt inside
  exact differsBelow_lead (by omega) (by omega) _ _

theorem KeepsOrder.continued {code : Nat → List UInt8} {bound : Nat}
    (keeps : KeepsOrder code bound) :
    KeepsOrder (fun n => code (n / 64) ++ [UInt8.ofNat (n % 64 + 128)]) (64 * bound) := by
  intro m n below inside
  by_cases front : m / 64 = n / 64
  · have last : UInt8.ofNat (m % 64 + 128) < UInt8.ofNat (n % 64 + 128) :=
      ofNat_lt_ofNat (by omega) (by omega)
    simp only [front]
    exact differsBelow_append_left _ (.inl last)
  · exact (keeps (by omega) (by omega)).append _ _

theorem KeepsOrder.orElse {low high : Nat → List UInt8} {last bound : Nat}
    (keepsLow : KeepsOrder low (last + 1)) (keepsHigh : KeepsOrder high bound)
    (apart : ∀ m n, m ≤ last → last < n → DiffersBelow (low m) (high n)) :
    KeepsOrder (fun n => if n ≤ last then low n else high n) bound := by
  intro m n below inside
  by_cases short : n ≤ last
  · simp only [if_pos short, if_pos (show m ≤ last by omega)]
    exact keepsLow below (by omega)
  · by_cases shorter : m ≤ last
    · simp only [if_neg short, if_pos shorter]
      exact apart m n shorter (by omega)
    · simp only [if_neg short, if_neg shorter]
      exact keepsHigh below inside

/-! ## Characters -/

theorem keepsOrder_oneByte : KeepsOrder (fun n => [UInt8.ofNat n]) 0x80 := by
  intro m n below inside
  exact differsBelow_lead below (by omega) _ _

theorem keepsOrder_twoBytes :
    KeepsOrder (fun n => [UInt8.ofNat (n / 64 % 32 + 192), UInt8.ofNat (n % 64 + 128)]) 0x800 :=
  (keepsOrder_lead 32 192 (by decide)).continued

theorem keepsOrder_threeBytes :
    KeepsOrder (fun n => [UInt8.ofNat (n / 4096 % 16 + 224), UInt8.ofNat (n / 64 % 64 + 128),
      UInt8.ofNat (n % 64 + 128)]) 0x10000 := by
  have keeps := (keepsOrder_lead 16 224 (by decide)).continued.continued
  simp only [Nat.div_div_eq_div_mul] at keeps
  exact keeps

theorem keepsOrder_fourBytes :
    KeepsOrder (fun n => [UInt8.ofNat (n / 262144 % 8 + 240), UInt8.ofNat (n / 4096 % 64 + 128),
      UInt8.ofNat (n / 64 % 64 + 128), UInt8.ofNat (n % 64 + 128)]) 0x200000 := by
  have keeps :=
    (keepsOrder_lead 8 240 (by decide)).continued.continued.continued
  simp only [Nat.div_div_eq_div_mul] at keeps
  exact keeps

theorem differsBelow_utf8EncodeChar {c d : Char} (below : c < d) :
    DiffersBelow (String.utf8EncodeChar c) (String.utf8EncodeChar d) := by
  have bound : d.val.toNat < 0x200000 := by
    rcases d.valid with low | ⟨-, high⟩
    · exact Nat.lt_trans low (by decide)
    · exact Nat.lt_trans high (by decide)
  -- From the longest codes to the shortest: a longer code opens with a greater byte.
  have three := keepsOrder_threeBytes.orElse keepsOrder_fourBytes fun m n _ _ =>
    differsBelow_lead (by omega) (by omega) _ _
  have two := keepsOrder_twoBytes.orElse three fun m n short long => by
    split
    · exact differsBelow_lead (by omega) (by omega) _ _
    · exact differsBelow_lead (by omega) (by omega) _ _
  have one := keepsOrder_oneByte.orElse two fun m n short long => by
    split
    · exact differsBelow_lead (by omega) (by omega) _ _
    · split
      · exact differsBelow_lead (by omega) (by omega) _ _
      · exact differsBelow_lead (by omega) (by omega) _ _
  exact one below bound

/-! ## Texts -/

def bytes (s : String) : List UInt8 := s.toUTF8.data.toList

theorem bytes_eq_flatMap (s : String) : bytes s = s.toList.flatMap String.utf8EncodeChar := by
  change s.toByteArray.data.toList = _
  rw [← String.utf8Encode_toList, List.utf8Encode]
  simp

theorem flatMap_utf8EncodeChar_lt {cs ds : List Char} (below : cs < ds) :
    cs.flatMap String.utf8EncodeChar < ds.flatMap String.utf8EncodeChar := by
  induction cs generalizing ds with
  | nil =>
      cases ds with
      | nil => exact absurd below (List.not_lt_nil _)
      | cons d ds =>
          obtain ⟨x, xs, head⟩ :=
            List.exists_cons_of_ne_nil (String.utf8EncodeChar_ne_nil (c := d))
          rw [List.flatMap_cons, head]
          exact List.nil_lt_cons x _
  | cons c cs ih =>
      cases ds with
      | nil => exact absurd below (List.not_lt_nil _)
      | cons d ds =>
          rw [List.flatMap_cons, List.flatMap_cons]
          rcases List.cons_lt_cons_iff.mp below with first | ⟨rfl, rest⟩
          · exact ((differsBelow_utf8EncodeChar first).append _ _).lt
          · exact List.append_left_lt (ih rest)

theorem bytes_lt_iff {s t : String} : bytes s < bytes t ↔ s.toList < t.toList := by
  rw [bytes_eq_flatMap, bytes_eq_flatMap]
  refine ⟨fun below => ?_, flatMap_utf8EncodeChar_lt⟩
  by_cases order : s < t
  · exact order
  · by_cases other : t < s
    · exact absurd (flatMap_utf8EncodeChar_lt other) (List.lt_asymm below)
    · have same : s = t := String.le_antisymm (String.not_lt.mp other) (String.not_lt.mp order)
      rw [same] at below
      exact absurd below (List.lt_irrefl _)

end NamedSql.Text
