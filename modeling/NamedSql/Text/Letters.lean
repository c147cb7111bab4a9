/-!
# Comparing words without regard to ASCII case

Only the letters `A` to `Z` fold; every other character stands for itself. `sameWord` compares
letter by letter, and `sameWord_iff` says that this is equality after folding.
-/

namespace NamedSql.Text

/-- Equality up to the case of ASCII letters. -/
def sameWord : List Char → List Char → Bool
  | [], [] => true
  | c :: cs, d :: ds => c.toLower == d.toLower && sameWord cs ds
  | _, _ => false

theorem sameWord_iff {cs ds : List Char} :
    sameWord cs ds = true ↔ cs.map Char.toLower = ds.map Char.toLower := by
  induction cs generalizing ds with
  | nil => cases ds <;> simp [sameWord]
  | cons c cs ih => cases ds <;> simp [sameWord, ih]

end NamedSql.Text
