import NamedSql.Scalar.Literal

namespace NamedSql

/-! ## Texts in quotes -/

namespace Text

theorem doubleQuotes_cons_of_ne {c : Char} (plain : c ≠ quoteMark) (cs : List Char) :
    doubleQuotes (c :: cs) = c :: doubleQuotes cs := by
  simp [doubleQuotes, plain]

theorem doubleQuotes_quoteMark (cs : List Char) :
    doubleQuotes (quoteMark :: cs) = quoteMark :: quoteMark :: doubleQuotes cs := by
  simp [doubleQuotes]

theorem readEnclosed_quoteMark (cs : List Char) :
    readEnclosed (quoteMark :: quoteMark :: cs) =
      (readEnclosed cs).map fun r => (quoteMark :: r.1, r.2) := by
  rw [readEnclosed.eq_def]
  simp

theorem readEnclosed_cons_of_ne {c : Char} (plain : c ≠ quoteMark) (cs : List Char) :
    readEnclosed (c :: cs) = (readEnclosed cs).map fun r => (c :: r.1, r.2) := by
  rw [readEnclosed.eq_def]
  simp [plain]

theorem readEnclosed_close {rest : List Char} (stop : rest.head? ≠ some quoteMark) :
    readEnclosed (quoteMark :: rest) = some ([], rest) := by
  cases rest with
  | nil => rfl
  | cons c cs =>
      have plain : c ≠ quoteMark := fun same => stop (congrArg some same)
      rw [readEnclosed.eq_def]
      simp [plain]

theorem readEnclosed_append (cs : List Char) {rest : List Char}
    (stop : rest.head? ≠ some quoteMark) :
    readEnclosed (doubleQuotes cs ++ quoteMark :: rest) = some (cs, rest) := by
  induction cs with
  | nil => exact readEnclosed_close stop
  | cons c cs ih =>
      by_cases plain : c = quoteMark
      · rw [plain, doubleQuotes_quoteMark, List.cons_append, List.cons_append,
          readEnclosed_quoteMark, ih]
        rfl
      · rw [doubleQuotes_cons_of_ne plain, List.cons_append, readEnclosed_cons_of_ne plain, ih]
        rfl

theorem toList_enclose (s : String) :
    (enclose s).toList = quoteMark :: (doubleQuotes s.toList ++ [quoteMark]) :=
  String.toList_ofList

end Text

namespace Scalar
open Text

/-! ## Integers -/

theorem toList_literal_int (n : Int64) :
    (Scalar.int n).literal.toList =
      (if n.toInt < 0 then ['-'] else []) ++ Decimal.chars n.toInt.natAbs := by
  rw [literal, Decimal.Numeral.text, String.toList_ofList]
  by_cases negative : n.toInt < 0 <;>
    simp [Decimal.Numeral.chars, Decimal.Numeral.ofInt, Decimal.chars, negative]

theorem exists_chars_cons (n : Nat) : ∃ d ds, Decimal.chars n = Decimal.digitChar d :: ds := by
  obtain ⟨d, ds, split⟩ := List.exists_cons_of_ne_nil (Decimal.digits_ne_nil n)
  exact ⟨d, ds.map Decimal.digitChar, by rw [Decimal.chars, split, List.map_cons]⟩

theorem int_eq_of_literal {n m : Int64} (same : (Scalar.int n).literal = (Scalar.int m).literal) :
    n = m := by
  have chars := congrArg String.toList same
  rw [toList_literal_int, toList_literal_int] at chars
  obtain ⟨d, ds, digitsN⟩ := exists_chars_cons n.toInt.natAbs
  obtain ⟨e, es, digitsM⟩ := exists_chars_cons m.toInt.natAbs
  rw [← Int64.toInt_inj]
  by_cases negativeN : n.toInt < 0 <;> by_cases negativeM : m.toInt < 0 <;>
    simp only [negativeN, negativeM, if_true, if_false, List.nil_append, List.cons_append] at chars
  · have := Decimal.chars_injective (List.cons.inj chars).2
    omega
  · rw [digitsM] at chars
    exact absurd (List.cons.inj chars).1.symm (Decimal.digitChar_ne_sign e).1
  · rw [digitsN] at chars
    exact absurd (List.cons.inj chars).1 (Decimal.digitChar_ne_sign d).1
  · have := Decimal.chars_injective chars
    omega

/-! ## Kinds of literals -/

/-- The kind of scalar that a literal opening with this character shows, floats apart. -/
def kindOf (first : Char) : String :=
  if first = 'N' then "null"
  else if first = 't' ∨ first = 'f' then "bool"
  else if first = quoteMark then "text"
  else "int"

theorem kindOf_literal {v : Scalar} (notFloat : ∀ x, v ≠ .float x) :
    v.literal.toList.head?.map kindOf = some v.typeName := by
  cases v with
  | null => rfl
  | bool b => cases b <;> rfl
  | int n =>
      rw [toList_literal_int]
      by_cases negative : n.toInt < 0
      · rw [if_pos negative]
        rfl
      · obtain ⟨d, ds, digits⟩ := exists_chars_cons n.toInt.natAbs
        have digit : ∀ d, kindOf (Decimal.digitChar d) = "int" := by decide
        rw [if_neg negative, digits]
        exact congrArg some (digit d)
  | float x => exact absurd rfl (notFloat x)
  | text s =>
      rw [literal, toList_enclose]
      rfl

theorem bool_eq_of_literal {b c : Bool}
    (same : (Scalar.bool b).literal = (Scalar.bool c).literal) : b = c := by
  revert b c
  decide

theorem text_eq_of_literal {s t : String}
    (same : (Scalar.text s).literal = (Scalar.text t).literal) : s = t := by
  have chars := congrArg String.toList same
  rw [literal, literal, toList_enclose, toList_enclose, List.cons.injEq] at chars
  have stop : ([] : List Char).head? ≠ some quoteMark := by simp
  have read := readEnclosed_append s.toList stop
  rw [chars.2, readEnclosed_append t.toList stop] at read
  exact String.toList_inj.mp (congrArg Prod.fst (Option.some.inj read)).symm

theorem literal_delimited :
    (∀ s : String, ∃ body, (Scalar.text s).literal.toList = quoteMark :: body ∧
      ∀ rest : List Char, rest.head? ≠ some quoteMark →
        readEnclosed (body ++ rest) = some (s.toList, rest)) ∧
    (∀ v w : Scalar, (∀ x, v ≠ .float x) → (∀ x, w ≠ .float x) → v.literal = w.literal →
      v = w) := by
  constructor
  · intro s
    refine ⟨_, toList_enclose s, fun rest stop => ?_⟩
    rw [List.append_assoc, List.singleton_append]
    exact readEnclosed_append s.toList stop
  · intro v w notFloatV notFloatW same
    -- The first character tells the kind, which leaves scalars of one kind to compare.
    have kinds := kindOf_literal notFloatV
    rw [same, kindOf_literal notFloatW, Option.some.injEq] at kinds
    cases v with
    | null =>
        cases w with
        | null => rfl
        | _ => simp [typeName] at kinds
    | bool b =>
        cases w with
        | bool c => rw [bool_eq_of_literal same]
        | _ => simp [typeName] at kinds
    | int n =>
        cases w with
        | int m => rw [int_eq_of_literal same]
        | _ => simp [typeName] at kinds
    | float x => exact absurd rfl (notFloatV x)
    | text s =>
        cases w with
        | text t => rw [text_eq_of_literal same]
        | _ => simp [typeName] at kinds

theorem literal_delimited_lookalikes :
    let s := "\x27x\x27\x27"
    let rest := [',', quoteMark]
    rest.head? ≠ some quoteMark ∧
    (∃ body, (Scalar.text s).literal.toList = quoteMark :: body ∧
      readEnclosed (body ++ rest) = some (s.toList, rest)) ∧
    (Scalar.text "1").literal ≠ (Scalar.int 1).literal := by
  intro s rest
  obtain ⟨delimited, injective⟩ := literal_delimited
  have stop : rest.head? ≠ some quoteMark := by decide
  obtain ⟨body, opens, reads⟩ := delimited s
  refine ⟨stop, ⟨body, opens, reads rest stop⟩, fun same => ?_⟩
  cases injective (.text "1") (.int 1) (fun _ other => by cases other) (fun _ other => by cases other)
    same

example : (Scalar.float 1.0).literal = (Scalar.int 1).literal := by decide +kernel

end Scalar
end NamedSql
