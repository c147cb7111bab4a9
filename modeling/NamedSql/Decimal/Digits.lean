/-!
# Decimal digits

`digits` writes a natural number, `value` reads one: `value_digits` says that reading undoes
writing. Each digit has one character, and `digit?_digitChar` reads it back.
-/

namespace NamedSql.Decimal

abbrev Digit := Fin 10

def zero : Digit := ⟨0, by decide⟩

/-- The digits of a number, the most significant first; zero has one digit. -/
def digits (n : Nat) : List Digit :=
  if n < 10 then [Fin.ofNat 10 n] else digits (n / 10) ++ [Fin.ofNat 10 n]
termination_by n

def value (ds : List Digit) : Nat := ds.foldl (fun n (d : Digit) => 10 * n + d.val) 0

theorem value_append_singleton (ds : List Digit) (d : Digit) :
    value (ds ++ [d]) = 10 * value ds + d.val := by
  simp [value]

theorem value_digits (n : Nat) : value (digits n) = n := by
  fun_induction digits n with
  | case1 n small => simp [value, Nat.mod_eq_of_lt small]
  | case2 n large ih =>
      rw [value_append_singleton, ih, Fin.val_ofNat]
      omega

theorem digits_ne_nil (n : Nat) : digits n ≠ [] := by
  unfold digits
  split <;> simp

/-! ## Characters -/

def digitChar (d : Digit) : Char := Char.ofNat (48 + d.val)

def digit? (c : Char) : Option Digit :=
  if h : 48 ≤ c.toNat ∧ c.toNat ≤ 57 then some ⟨c.toNat - 48, by omega⟩ else none

theorem digit?_digitChar (d : Digit) : digit? (digitChar d) = some d := by
  revert d
  decide

theorem digitChar_ne_sign (d : Digit) : digitChar d ≠ '-' ∧ digitChar d ≠ '+' := by
  revert d
  decide

def chars (n : Nat) : List Char := (digits n).map digitChar

def text (n : Nat) : String := String.ofList (chars n)

theorem toList_text (n : Nat) : (text n).toList = chars n := String.toList_ofList

theorem chars_injective {n m : Nat} (same : chars n = chars m) : n = m := by
  have character : ∀ {d e : Digit}, digitChar d = digitChar e → d = e := by
    intro d e eq
    simpa [digit?_digitChar] using congrArg digit? eq
  have digits_eq : digits n = digits m := (List.map_inj_right fun _ _ => character).mp same
  rw [← value_digits n, digits_eq, value_digits]

theorem chars_eq_toDigits (n : Nat) : chars n = Nat.toDigits 10 n := by
  have character (m : Nat) : digitChar (Fin.ofNat 10 m) = Nat.digitChar (m % 10) := by
    have each : ∀ d : Digit, digitChar d = Nat.digitChar d.val := by decide
    exact each (Fin.ofNat 10 m)
  unfold chars
  fun_induction digits n with
  | case1 n small =>
      rw [Nat.toDigits_of_lt_base small, List.map_singleton, character, Nat.mod_eq_of_lt small]
  | case2 n large ih =>
      rw [Nat.toDigits_of_base_le (by decide) (Nat.le_of_not_lt large), List.map_append, ih,
        List.map_singleton, character]

theorem text_eq_toString (n : Nat) : text n = toString n := by
  rw [text, chars_eq_toDigits, Nat.toString_eq_ofList_toDigits]

end NamedSql.Decimal
