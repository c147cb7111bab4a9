import Mathlib.Data.List.Nodup
import NamedSql.Identifier
import NamedSql.Proofs.Text.Delimited

namespace NamedSql
open Text Identifier

/-! ## One name -/

theorem quote_head (name : String) :
    ∃ c rest, (quote name).toList = c :: rest ∧ (c = '*' ∨ c = '`') := by
  by_cases wildcard : name = "*"
  · exact ⟨'*', [], by rw [wildcard]; decide, .inl rfl⟩
  · exact ⟨'`', name.toList ++ ['`'], by simp [quote_of_ne wildcard], .inr rfl⟩

theorem quote_append_inj {f g : String} {x y : List Char} (plainF : '`' ∉ f.toList)
    (plainG : '`' ∉ g.toList) (same : (quote f).toList ++ x = (quote g).toList ++ y) :
    f = g ∧ x = y := by
  by_cases wildF : f = "*"
  · by_cases wildG : g = "*"
    · subst wildF wildG
      exact ⟨rfl, List.append_cancel_left same⟩
    · simp [wildF, quote_wildcard, quote_of_ne wildG] at same
  · by_cases wildG : g = "*"
    · simp [wildG, quote_wildcard, quote_of_ne wildF] at same
    · simp only [quote_of_ne wildF, quote_of_ne wildG, String.toList_append,
        List.append_assoc] at same
      have names := List.append_cancel_left same
      obtain ⟨chars, rests⟩ := mark_append_inj plainF plainG names
      exact ⟨String.toList_inj.mp chars, rests⟩

/-! ## Lists of names -/

def listedNames (names : List String) : List Char :=
  listed ',' (fun name => (quote name).toList) (fun _ => []) names

theorem toList_quoteList (names : List String) :
    (quoteList names).toList = listedNames names := by
  rw [quoteList]
  induction names with
  | nil => rfl
  | cons name names ih =>
      cases names with
      | nil => simp [listedNames, listed, trimRight]
      | cons next rest =>
          rw [List.map_cons, List.map_cons, String.intercalate_cons_cons, ← List.map_cons,
            String.toList_append, ih]
          simp [listedNames, listed]

theorem names_readable :
    Readable ',' (fun name => (quote name).toList) (fun _ => []) (fun name => '`' ∉ name.toList)
      (fun x => ∀ c ∈ x.head?, c ≠ ',') where
  front_inj := quote_append_inj
  follows_ne := by
    intro a b rest x y lost follows split _ same
    -- Nothing is trimmed behind a quoted name, so the other list goes on with a comma at once.
    have nothing : lost = [] := by simpa [trimRight] using split.symm
    rw [same, nothing] at follows
    exact follows ',' rfl rfl

theorem listedNames_append_inj {ns ms : List String} {x y : List Char}
    (someN : ns ≠ []) (someM : ms ≠ []) (plainN : ∀ n ∈ ns, '`' ∉ n.toList)
    (plainM : ∀ m ∈ ms, '`' ∉ m.toList) (followsX : ∀ c ∈ x.head?, c ≠ ',')
    (followsY : ∀ c ∈ y.head?, c ≠ ',') (same : listedNames ns ++ x = listedNames ms ++ y) :
    ns = ms ∧ x = y :=
  names_readable.listed_append_inj someN someM plainN plainM followsX followsY same

theorem listedNames_eq_nil_iff {names : List String} : listedNames names = [] ↔ names = [] := by
  constructor
  · intro blank
    cases names with
    | nil => rfl
    | cons name rest =>
        obtain ⟨c, cs, opens, -⟩ := quote_head name
        obtain ⟨more, starts⟩ :=
          exists_listed_cons ',' (fun name => (quote name).toList) (fun _ => []) name rest
        rw [listedNames, starts, opens] at blank
        cases blank
  · rintro rfl
    rfl

theorem listedNames_inj {ns ms : List String} (plainN : ∀ n ∈ ns, '`' ∉ n.toList)
    (plainM : ∀ m ∈ ms, '`' ∉ m.toList) (same : listedNames ns = listedNames ms) : ns = ms := by
  by_cases noneN : ns = []
  · rw [listedNames_eq_nil_iff.mpr noneN] at same
    rw [noneN, listedNames_eq_nil_iff.mp same.symm]
  · have someM : ms ≠ [] := by
      intro noneM
      rw [listedNames_eq_nil_iff.mpr noneM] at same
      exact noneN (listedNames_eq_nil_iff.mp same)
    have ends : ∀ c ∈ ([] : List Char).head?, c ≠ ',' := by simp
    exact (listedNames_append_inj noneN someM plainN plainM ends ends
      (congrArg (· ++ []) same)).1

theorem quoteList_injective :
    (∀ ns ms : List String, (∀ n ∈ ns, '`' ∉ n.toList) → (∀ m ∈ ms, '`' ∉ m.toList) →
      quoteList ns = quoteList ms → ns = ms) ∧
    [quoteList [], quoteList [""], quoteList ["*"]].Nodup := by
  have injective (ns ms : List String) (plainN : ∀ n ∈ ns, '`' ∉ n.toList)
      (plainM : ∀ m ∈ ms, '`' ∉ m.toList) (same : quoteList ns = quoteList ms) : ns = ms := by
    have chars := congrArg String.toList same
    rw [toList_quoteList, toList_quoteList] at chars
    exact listedNames_inj plainN plainM chars
  refine ⟨injective, ?_⟩
  have lists : [[], [""], ["*"]].Nodup := by decide
  have plain : ∀ ns ∈ [[], [""], ["*"]], ∀ n ∈ ns, '`' ∉ n.toList := by decide
  exact lists.map_on fun ns memN ms memM same => injective ns ms (plain ns memN) (plain ms memM) same

theorem quoteList_injective_lookalikes :
    let ns := ["*,*", "a,b", ""]
    let ms := ["*", "*", "a", "b", ""]
    (∀ n ∈ ns, '`' ∉ n.toList) ∧ (∀ m ∈ ms, '`' ∉ m.toList) ∧ quoteList ns ≠ quoteList ms := by
  intro ns ms
  have plainN : ∀ n ∈ ns, '`' ∉ n.toList := by decide
  have plainM : ∀ m ∈ ms, '`' ∉ m.toList := by decide
  refine ⟨plainN, plainM, fun same => ?_⟩
  exact absurd (quoteList_injective.1 ns ms plainN plainM same) (by decide)

/-- Backticks within names are not escaped. -/
example : quoteList ["a`,`b"] = quoteList ["a", "b"] := by decide +kernel

end NamedSql
