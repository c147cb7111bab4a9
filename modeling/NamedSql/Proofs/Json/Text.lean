import NamedSql.Json.Printer
import NamedSql.Json.Reader

namespace NamedSql

namespace Text

theorem hexValue?_digitChar : ∀ d < 16, hexValue? (Nat.digitChar d) = some d := by decide

theorem readHex_hex4 {n : Nat} (small : n < 0x10000) : readHex 0 4 (hex4 n) = some (n, []) := by
  have digit (k : Nat) : hexValue? (Nat.digitChar (n / k % 16)) = some (n / k % 16) :=
    hexValue?_digitChar _ (Nat.mod_lt _ (by decide))
  have last := digit 1
  rw [Nat.div_one] at last
  simp only [hex4, List.map_cons, List.map_nil, readHex, digit, last, Option.bind_some]
  congr 2
  omega

end Text

namespace Json

theorem ofPoints?_points (s : String) : ofPoints? (points s) = some s := by
  have each (cs : List Char) : (cs.map Char.toNat).mapM char? = some cs := by
    induction cs with
    | nil => rfl
    | cons c cs ih =>
        have valid : c.toNat.isValidChar := c.valid
        have back : char? c.toNat = some c := by rw [char?, if_pos valid, Char.ofNat_toNat]
        rw [List.map_cons, List.mapM_cons, back, ih]
        rfl
  rw [ofPoints?, points, each, Option.map_some, String.ofList_toList]

/-! ## Units -/

theorem unescape?_of_escapeLetter? {n : Nat} {letter : Char}
    (escaped : escapeLetter? n = some letter) : unescape? letter = some n ∧ letter ≠ 'u' := by
  unfold escapeLetter? at escaped
  repeat' split at escaped
  all_goals first
    | cases escaped
      subst n
      exact ⟨by decide, by decide⟩
    | cases escaped

theorem readUnits_letter {letter : Char} (other : letter ≠ 'u') (cs : List Char) :
    readUnits ('\x5C' :: letter :: cs) =
      (unescape? letter).bind fun n => (readUnits cs).map fun r => (n :: r.1, r.2) := by
  rw [readUnits]
  · rw [if_neg (by decide), if_pos rfl]
    cases unescape? letter <;> cases readUnits cs <;> rfl
  · intro _ _ _ _ _ same _
    exact other same

theorem readUnits_hex4 {n : Nat} (small : n < 0x10000) (cs : List Char) :
    readUnits ('\x5C' :: 'u' :: (Text.hex4 n ++ cs)) =
      (readUnits cs).map fun r => (n :: r.1, r.2) := by
  have digits := Text.readHex_hex4 small
  simp only [Text.hex4, List.map_cons, List.map_nil, List.cons_append, List.nil_append] at digits ⊢
  rw [readUnits, if_neg (by decide), if_pos rfl, digits]
  cases readUnits cs <;> rfl

theorem readUnits_self {c : Char} (mark : c ≠ '\x22') (slash : c ≠ '\x5C')
    (shown : 0x20 ≤ c.toNat) (cs : List Char) :
    readUnits (c :: cs) = (readUnits cs).map fun r => (c.toNat :: r.1, r.2) := by
  rw [readUnits.eq_def]
  simp only
  rw [if_neg mark, if_neg slash, if_neg (Nat.not_lt.mpr shown)]

theorem readUnits_pointChars (c : Char) (cs : List Char) :
    readUnits (pointChars c.toNat ++ cs) = (readUnits cs).map fun r => (c.toNat :: r.1, r.2) := by
  have valid : c.toNat.isValidChar := c.valid
  unfold pointChars
  split
  · rename_i letter escaped
    obtain ⟨back, other⟩ := unescape?_of_escapeLetter? escaped
    exact (readUnits_letter other cs).trans (by rw [back, Option.bind_some])
  · rename_i plain
    have mark : c ≠ '\x22' := by
      rintro rfl
      exact absurd plain (by decide)
    have slash : c ≠ '\x5C' := by
      rintro rfl
      exact absurd plain (by decide)
    split
    · rename_i shown
      rw [Char.ofNat_toNat]
      exact readUnits_self mark slash shown.1 cs
    · rename_i hidden
      have small : c.toNat < 0x20 := Nat.lt_of_not_le fun shown => hidden ⟨shown, valid⟩
      exact readUnits_hex4 (by omega) cs

theorem readUnits_append (cs rest : List Char) :
    readUnits ((cs.map Char.toNat).flatMap pointChars ++ '\x22' :: rest) =
      some (cs.map Char.toNat, rest) := by
  induction cs with
  | nil =>
      rw [List.map_nil, List.flatMap_nil, List.nil_append, readUnits.eq_def]
      rfl
  | cons c cs ih =>
      rw [List.map_cons, List.flatMap_cons, List.append_assoc, readUnits_pointChars, ih]
      rfl

/-! ## Strings -/

theorem isHigh_toNat (c : Char) : isHigh c.toNat = false := by
  have valid : c.toNat.isValidChar := c.valid
  unfold Nat.isValidChar at valid
  rw [isHigh, Bool.and_eq_false_iff, decide_eq_false_iff_not, decide_eq_false_iff_not]
  omega

theorem joinPairs_of_not_isHigh {us : List Nat} (single : ∀ u ∈ us, isHigh u = false) :
    joinPairs us = us := by
  fun_induction joinPairs us with
  | case1 u v rest pair ih =>
      rw [single u List.mem_cons_self] at pair
      cases pair
  | case2 u v rest apart ih => rw [ih fun w mem => single w (List.mem_cons_of_mem _ mem)]
  | case3 us other => rfl

theorem readString_append (s : String) (rest : List Char) :
    readString ((points s).flatMap pointChars ++ '\x22' :: rest) = some (points s, rest) := by
  have single : ∀ u ∈ points s, isHigh u = false := by
    intro u mem
    obtain ⟨c, -, rfl⟩ := List.mem_map.mp mem
    exact isHigh_toNat c
  rw [readString, points, readUnits_append, Option.map_some]
  exact congrArg (fun us => some (us, rest)) (joinPairs_of_not_isHigh single)

end Json
end NamedSql
