/-!
# Blank characters and trimming

`isBlank` is the White_Space property of the Unicode character database. `trim` removes the blanks
at both ends of a text and touches nothing between them.

* `trimChars_eq_nil_iff`: only blank texts vanish.
* `head_trimChars`, `getLast_trimChars`: what is left neither starts nor ends with a blank.
* `trimChars_split`: only blanks are lost, and only at the ends.
-/

namespace NamedSql.Text

/-! ## The property -/

/-- First and last code point of each run of White_Space. -/
def blankRanges : List (Nat × Nat) :=
  [(0x09, 0x0D), (0x20, 0x20), (0x85, 0x85), (0xA0, 0xA0), (0x1680, 0x1680), (0x2000, 0x200A),
   (0x2028, 0x2029), (0x202F, 0x202F), (0x205F, 0x205F), (0x3000, 0x3000)]

/-- Whether a character is white space in the sense of Unicode. -/
def isBlank (c : Char) : Bool :=
  blankRanges.any fun r => r.1 ≤ c.toNat && c.toNat ≤ r.2

/-! ## Trimming -/

def trimLeft (cs : List Char) : List Char := cs.dropWhile isBlank

def trimRight (cs : List Char) : List Char := (cs.reverse.dropWhile isBlank).reverse

def trimChars (cs : List Char) : List Char := trimRight (trimLeft cs)

def trim (s : String) : String := String.ofList (trimChars s.toList)

@[simp]
theorem toList_trim (s : String) : (trim s).toList = trimChars s.toList := by
  simp [trim]

/-! ## Laws of trimming -/

theorem trimLeft_eq_nil_iff {cs : List Char} : trimLeft cs = [] ↔ ∀ c ∈ cs, isBlank c := by
  induction cs with
  | nil => simp [trimLeft]
  | cons c cs ih => by_cases h : isBlank c <;> simp_all [trimLeft]

theorem trimRight_eq_nil_iff {cs : List Char} : trimRight cs = [] ↔ ∀ c ∈ cs, isBlank c := by
  rw [trimRight, List.reverse_eq_nil_iff, ← trimLeft, trimLeft_eq_nil_iff]
  simp only [List.mem_reverse]

theorem trimLeft_split (cs : List Char) :
    ∃ before, cs = before ++ trimLeft cs ∧ ∀ c ∈ before, isBlank c := by
  refine ⟨cs.takeWhile isBlank, List.takeWhile_append_dropWhile.symm, ?_⟩
  exact List.all_eq_true.mp List.all_takeWhile

theorem trimRight_split (cs : List Char) :
    ∃ after, cs = trimRight cs ++ after ∧ ∀ c ∈ after, isBlank c := by
  obtain ⟨before, split, blank⟩ := trimLeft_split cs.reverse
  refine ⟨before.reverse, ?_, by simpa using blank⟩
  rw [← List.reverse_inj, split, trimRight, List.reverse_append, List.reverse_reverse,
    List.reverse_reverse]
  rfl

theorem trimRight_append (cs : List Char) {ds : List Char} (left : trimRight ds ≠ []) :
    trimRight (cs ++ ds) = cs ++ trimRight ds := by
  have stop : (ds.reverse.dropWhile isBlank).isEmpty = false := by
    simpa [trimRight] using left
  simp [trimRight, List.dropWhile_append, stop]

theorem trimRight_cons {c : Char} (visible : isBlank c = false) (ds : List Char) :
    trimRight (c :: ds) = c :: trimRight ds := by
  by_cases left : trimRight ds = []
  · have gone : ds.reverse.dropWhile isBlank = [] := by simpa [trimRight] using left
    simp [trimRight, List.dropWhile_append, gone, visible]
  · exact trimRight_append [c] left

theorem trimRight_append_of_eq {cs : List Char} (whole : trimRight cs = cs) (ds : List Char) :
    trimRight (cs ++ ds) = cs ++ trimRight ds := by
  by_cases left : trimRight ds = []
  · have gone : ds.reverse.dropWhile isBlank = [] := by simpa [trimRight] using left
    have same : trimRight (cs ++ ds) = trimRight cs := by
      simp [trimRight, List.dropWhile_append, gone]
    rw [same, whole, left, List.append_nil]
  · exact trimRight_append cs left

theorem trimLeft_cons {c : Char} (visible : isBlank c = false) (cs : List Char) :
    trimLeft (c :: cs) = c :: cs := by
  simp [trimLeft, visible]

theorem trimChars_cons {c : Char} (visible : isBlank c = false) (cs : List Char) :
    trimChars (c :: cs) = trimRight (c :: cs) := by
  rw [trimChars, trimLeft_cons visible]

theorem trimChars_split (cs : List Char) :
    ∃ before after, cs = before ++ (trimChars cs ++ after) ∧
      (∀ c ∈ before, isBlank c) ∧ ∀ c ∈ after, isBlank c := by
  obtain ⟨before, left, blankBefore⟩ := trimLeft_split cs
  obtain ⟨after, right, blankAfter⟩ := trimRight_split (trimLeft cs)
  refine ⟨before, after, ?_, blankBefore, blankAfter⟩
  rw [trimChars, ← right, ← left]

theorem trimLeft_append_of_blank {before : List Char} (blank : ∀ c ∈ before, isBlank c)
    (cs : List Char) : trimLeft (before ++ cs) = trimLeft cs :=
  List.dropWhile_append_of_pos blank

theorem trimRight_append_of_blank {after : List Char} (blank : ∀ c ∈ after, isBlank c)
    (cs : List Char) : trimRight (cs ++ after) = trimRight cs := by
  rw [trimRight, trimRight, List.reverse_append,
    List.dropWhile_append_of_pos (by simpa using blank)]

theorem trimRight_isPrefix (cs : List Char) : trimRight cs <+: cs := by
  rw [trimRight, ← List.reverse_suffix, List.reverse_reverse]
  exact List.dropWhile_suffix _

theorem head_trimLeft {cs : List Char} (h : trimLeft cs ≠ []) :
    isBlank ((trimLeft cs).head h) = false :=
  List.head_dropWhile_not isBlank h

theorem getLast_trimRight {cs : List Char} (h : trimRight cs ≠ []) :
    isBlank ((trimRight cs).getLast h) = false := by
  simp only [trimRight, List.getLast_reverse]
  exact List.head_dropWhile_not isBlank _

theorem trimChars_eq_nil_iff {cs : List Char} : trimChars cs = [] ↔ ∀ c ∈ cs, isBlank c := by
  rw [trimChars, trimRight_eq_nil_iff]
  constructor
  · intro blank
    rw [← trimLeft_eq_nil_iff]
    refine Decidable.byContradiction fun left => ?_
    simpa [head_trimLeft left] using blank _ (List.head_mem left)
  · intro blank c mem
    exact blank c ((List.dropWhile_suffix _).mem mem)

theorem trimChars_append_of_blank {after : List Char} (blank : ∀ c ∈ after, isBlank c)
    (cs : List Char) : trimChars (cs ++ after) = trimChars cs := by
  rw [trimChars, trimChars]
  by_cases left : trimLeft cs = []
  · have gone : trimLeft (cs ++ after) = [] := by
      rw [trimLeft_append_of_blank (trimLeft_eq_nil_iff.mp left), trimLeft_eq_nil_iff]
      exact blank
    rw [gone, left]
  · have stop : (cs.dropWhile isBlank).isEmpty = false := by simpa [trimLeft] using left
    have kept : trimLeft (cs ++ after) = trimLeft cs ++ after := by
      simp [trimLeft, List.dropWhile_append, stop]
    rw [kept, trimRight_append_of_blank blank]

theorem trimChars_surrounded {before after : List Char} (blankBefore : ∀ c ∈ before, isBlank c)
    (blankAfter : ∀ c ∈ after, isBlank c) (cs : List Char) :
    trimChars (before ++ (cs ++ after)) = trimChars cs := by
  rw [trimChars, trimLeft_append_of_blank blankBefore]
  exact trimChars_append_of_blank blankAfter cs

theorem getLast_trimChars {cs : List Char} (h : trimChars cs ≠ []) :
    isBlank ((trimChars cs).getLast h) = false :=
  getLast_trimRight h

theorem head_trimChars {cs : List Char} (h : trimChars cs ≠ []) :
    isBlank ((trimChars cs).head h) = false := by
  have left : trimLeft cs ≠ [] := fun nil => h (by simp [trimChars, trimRight, nil])
  have same : (trimChars cs).head h = (trimLeft cs).head left :=
    (trimRight_isPrefix (trimLeft cs)).head h
  rw [same]
  exact head_trimLeft left

end NamedSql.Text
