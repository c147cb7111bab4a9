import NamedSql.Proofs.Text.Delimited

namespace NamedSql.Text

def isWordChar (c : Char) : Bool := c.isAlphanum || c == '_'

def colonWords : List Char → List (List Char)
  | [] => []
  | c :: cs => if c = ':' then cs.takeWhile isWordChar :: colonWords cs else colonWords cs

def StartsOutside (cs : List Char) : Prop := ∀ c ∈ cs.head?, isWordChar c = false

theorem colonWords_append (cs : List Char) {ds : List Char} (outside : StartsOutside ds) :
    colonWords (cs ++ ds) = colonWords cs ++ colonWords ds := by
  induction cs with
  | nil => rfl
  | cons c cs ih =>
      by_cases colon : c = ':'
      · simp only [List.cons_append, colonWords, if_pos colon,
          takeWhile_append_of_stop cs outside, ih]
      · simp only [List.cons_append, colonWords, if_neg colon, ih]

theorem colonWords_append_of_notMem {cs : List Char} (plain : ':' ∉ cs) (ds : List Char) :
    colonWords (cs ++ ds) = colonWords ds := by
  induction cs with
  | nil => rfl
  | cons c cs ih =>
      rw [List.mem_cons, not_or] at plain
      rw [List.cons_append, colonWords, if_neg (Ne.symm plain.1), ih plain.2]

theorem colonWords_of_notMem {cs : List Char} (plain : ':' ∉ cs) : colonWords cs = [] := by
  rw [← List.append_nil cs, colonWords_append_of_notMem plain]
  rfl

theorem colonWords_colon {word : List Char} (all : ∀ c ∈ word, isWordChar c) :
    colonWords (':' :: word) = [word] := by
  have plain : ':' ∉ word := fun mem => absurd (all ':' mem) (by decide)
  have whole : word.takeWhile isWordChar = word := List.takeWhile_eq_self_iff.mpr all
  rw [colonWords, if_pos rfl, whole, colonWords_of_notMem plain]

/-! ## Blanks and separators -/

theorem range_of_isWordChar {c : Char} (word : isWordChar c) : 48 ≤ c.toNat ∧ c.toNat ≤ 122 := by
  have upper : c.isUpper = decide (65 ≤ c.toNat ∧ c.toNat ≤ 90) := rfl
  have lower : c.isLower = (decide (97 ≤ c.toNat) && decide (c.toNat ≤ 122)) := rfl
  have digit : c.isDigit = (decide (48 ≤ c.toNat) && decide (c.toNat ≤ 57)) := rfl
  have classes : c.isAlphanum = (c.isUpper || c.isLower || c.isDigit) := rfl
  simp only [isWordChar, classes, upper, lower, digit, Bool.or_eq_true, Bool.and_eq_true,
    decide_eq_true_eq, beq_iff_eq] at word
  rcases word with ((upper | lower) | digit) | rfl
  · omega
  · omega
  · omega
  · decide

theorem isWordChar_of_isBlank {c : Char} (blank : isBlank c) : isWordChar c = false := by
  cases word : isWordChar c with
  | false => rfl
  | true =>
      have range := range_of_isWordChar word
      simp [isBlank, blankRanges] at blank
      omega

theorem startsOutside_of_blank {cs : List Char} (blank : ∀ c ∈ cs, isBlank c) :
    StartsOutside cs := by
  intro c first
  exact isWordChar_of_isBlank (blank c (List.mem_of_mem_head? first))

theorem colonWords_of_blank {cs : List Char} (blank : ∀ c ∈ cs, isBlank c) : colonWords cs = [] :=
  colonWords_of_notMem fun mem => absurd (blank ':' mem) (by decide)

theorem colonWords_trimChars (cs : List Char) : colonWords (trimChars cs) = colonWords cs := by
  obtain ⟨before, after, split, blankBefore, blankAfter⟩ := trimChars_split cs
  have plain : ':' ∉ before := fun mem => absurd (blankBefore ':' mem) (by decide)
  calc colonWords (trimChars cs)
      = colonWords (trimChars cs ++ after) := by
        rw [colonWords_append _ (startsOutside_of_blank blankAfter),
          colonWords_of_blank blankAfter, List.append_nil]
    _ = colonWords (before ++ (trimChars cs ++ after)) :=
        (colonWords_append_of_notMem plain _).symm
    _ = colonWords cs := by rw [← split]

theorem colonWords_intercalate {mark : Char} (plain : mark ≠ ':')
    (outside : isWordChar mark = false) (texts : List (List Char)) :
    colonWords ([mark].intercalate texts) = texts.flatMap colonWords := by
  induction texts with
  | nil => rfl
  | cons text texts ih =>
      cases texts with
      | nil => simp
      | cons next rest =>
          have seam : StartsOutside ([mark] ++ [mark].intercalate (next :: rest)) := by
            rintro c ⟨⟩
            exact outside
          rw [List.intercalate_cons_cons, List.append_assoc, colonWords_append text seam,
            colonWords_append_of_notMem (by simpa using Ne.symm plain), ih]
          rfl

end NamedSql.Text
