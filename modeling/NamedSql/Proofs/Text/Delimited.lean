import Mathlib.Data.List.TakeWhile
import NamedSql.Text.Blank

namespace NamedSql.Text

theorem takeWhile_append_of_stop {p : Char → Bool} (cs : List Char) {ds : List Char}
    (stop : ∀ c ∈ ds.head?, p c = false) : (cs ++ ds).takeWhile p = cs.takeWhile p := by
  induction cs with
  | nil =>
      cases ds with
      | nil => rfl
      | cons d ds => simp [stop d rfl]
  | cons c cs ih => by_cases class_ : p c <;> simp [class_, ih]

theorem class_append_inj {p : Char → Bool} {cs ds x y : List Char}
    (inC : ∀ c ∈ cs, p c) (inD : ∀ c ∈ ds, p c)
    (stopX : ∀ c ∈ x.head?, p c = false) (stopY : ∀ c ∈ y.head?, p c = false)
    (same : cs ++ x = ds ++ y) : cs = ds ∧ x = y := by
  have heads : cs = ds := by
    have := congrArg (List.takeWhile p) same
    rwa [takeWhile_append_of_stop cs stopX, takeWhile_append_of_stop ds stopY,
      List.takeWhile_eq_self_iff.mpr inC, List.takeWhile_eq_self_iff.mpr inD] at this
  subst heads
  exact ⟨rfl, List.append_cancel_left same⟩

theorem mark_append_inj {mark : Char} {cs ds x y : List Char} (outC : mark ∉ cs) (outD : mark ∉ ds)
    (same : cs ++ mark :: x = ds ++ mark :: y) : cs = ds ∧ x = y := by
  have before {es : List Char} (out : mark ∉ es) : ∀ c ∈ es, (c != mark) = true := by
    rintro c mem
    rw [bne_iff_ne]
    rintro rfl
    exact out mem
  have stop (z : List Char) : ∀ c ∈ (mark :: z).head?, (c != mark) = false := by
    rintro c ⟨⟩
    simp
  obtain ⟨heads, tails⟩ := class_append_inj (before outC) (before outD) (stop x) (stop y) same
  exact ⟨heads, (List.cons.inj tails).2⟩

/-! ## Lists of items -/

section
variable {α : Type} {mark : Char} {front name : α → List Char}

/-- Items with a mark between them, each a front and a name; the last name is trimmed. -/
def listed (mark : Char) (front name : α → List Char) : List α → List Char
  | [] => []
  | [a] => front a ++ trimRight (name a)
  | a :: b :: rest => front a ++ (name a ++ mark :: listed mark front name (b :: rest))

theorem exists_listed_cons (mark : Char) (front name : α → List Char) (a : α) (rest : List α) :
    ∃ more, listed mark front name (a :: rest) = front a ++ more := by
  cases rest with
  | nil => exact ⟨_, rfl⟩
  | cons b rest => exact ⟨_, rfl⟩

theorem infix_listed (mark : Char) (front name : α → List Char) {a : α} {items : List α}
    (mem : a ∈ items) : front a ++ trimRight (name a) <:+: listed mark front name items := by
  induction items with
  | nil => exact absurd mem List.not_mem_nil
  | cons b items ih =>
      cases items with
      | nil =>
          cases List.mem_singleton.mp mem
          exact List.infix_rfl
      | cons c rest =>
          rw [listed]
          rcases List.mem_cons.mp mem with rfl | later
          · apply List.IsPrefix.isInfix
            rw [List.prefix_append_right_inj]
            exact (trimRight_isPrefix _).trans (List.prefix_append _ _)
          · refine (ih later).trans (List.IsSuffix.isInfix ?_)
            exact ⟨front b ++ (name b ++ [mark]), by simp⟩

theorem infix_listed_of_mem_dropLast (mark : Char) (front name : α → List Char) {a : α}
    {items : List α} (mem : a ∈ items.dropLast) :
    front a ++ name a <:+: listed mark front name items := by
  induction items with
  | nil => exact absurd mem List.not_mem_nil
  | cons b items ih =>
      cases items with
      | nil => exact absurd mem List.not_mem_nil
      | cons c rest =>
          rw [listed]
          rcases List.mem_cons.mp mem with rfl | later
          · exact ⟨[], mark :: listed mark front name (c :: rest), by simp⟩
          · refine (ih later).trans (List.IsSuffix.isInfix ?_)
            exact ⟨front b ++ (name b ++ [mark]), by simp⟩

theorem trimRight_intercalate {text : α → String} {separator : String}
    (single : separator.toList = [mark])
    (split : ∀ a, (text a).toList = front a ++ name a)
    (visible : ∀ a, ∃ cs c, front a = cs ++ [c] ∧ isBlank c = false) (items : List α) :
    trimRight (separator.intercalate (items.map text)).toList = listed mark front name items := by
  induction items with
  | nil => rfl
  | cons a items ih =>
      obtain ⟨cs, c, ends, seen⟩ := visible a
      cases items with
      | nil =>
          have kept : trimRight (c :: name a) ≠ [] := by simp [trimRight_cons seen]
          rw [List.map_singleton, String.intercalate_singleton, split, listed, ends,
            List.append_assoc, List.singleton_append, trimRight_append cs kept, trimRight_cons seen,
            List.append_assoc, List.singleton_append]
      | cons b rest =>
          have kept : listed mark front name (b :: rest) ≠ [] := by
            obtain ⟨more, starts⟩ := exists_listed_cons mark front name b rest
            obtain ⟨_, _, nonempty, -⟩ := visible b
            simp [starts, nonempty]
          rw [List.map_cons, List.map_cons, String.intercalate_cons_cons, ← List.map_cons,
            String.toList_append, trimRight_append _ (ih ▸ kept), ih, listed, String.toList_append,
            split, single]
          simp

/-- What has to hold of items and of the texts that may follow, so that a list of items can be read
back: a front tells its item, and what follows does not look like more items after the blanks that
the last name has lost. -/
structure Readable (mark : Char) (front name : α → List Char) (item : α → Prop)
    (follows : List Char → Prop) : Prop where
  front_inj : ∀ {a b x y}, item a → item b → front a ++ x = front b ++ y → a = b ∧ x = y
  follows_ne : ∀ {a b rest x y lost}, follows x → name a = trimRight (name a) ++ lost →
    (∀ c ∈ lost, isBlank c) → x ≠ lost ++ mark :: (listed mark front name (b :: rest) ++ y)

namespace Readable
variable {item : α → Prop} {follows : List Char → Prop}

theorem last_ne_inner (readable : Readable mark front name item follows) {a b c : α}
    {rest : List α} {x y : List Char} (itemA : item a) (itemB : item b) (followsX : follows x) :
    front a ++ trimRight (name a) ++ x ≠
      front b ++ (name b ++ mark :: listed mark front name (c :: rest)) ++ y := by
  intro same
  rw [List.append_assoc, List.append_assoc] at same
  obtain ⟨rfl, names⟩ := readable.front_inj itemA itemB same
  obtain ⟨lost, split, blank⟩ := trimRight_split (name a)
  have cut : x = lost ++ mark :: (listed mark front name (c :: rest) ++ y) := by
    refine List.append_cancel_left (?_ : trimRight (name a) ++ x = trimRight (name a) ++ _)
    rw [names, ← List.append_assoc, ← split, List.append_assoc]
    rfl
  exact readable.follows_ne followsX split blank cut

theorem listed_append_inj (readable : Readable mark front name item follows) {as bs : List α}
    {x y : List Char} (someA : as ≠ []) (someB : bs ≠ []) (itemsA : ∀ a ∈ as, item a)
    (itemsB : ∀ b ∈ bs, item b) (followsX : follows x) (followsY : follows y)
    (same : listed mark front name as ++ x = listed mark front name bs ++ y) :
    as = bs ∧ x = y := by
  -- Item by item, for any texts behind; a list cannot end where the other one goes on.
  induction as generalizing bs with
  | nil => exact absurd rfl someA
  | cons a as ih =>
      have itemA := itemsA a List.mem_cons_self
      cases bs with
      | nil => exact absurd rfl someB
      | cons b bs =>
          have itemB := itemsB b List.mem_cons_self
          cases as with
          | nil =>
              cases bs with
              | nil =>
                  rw [listed, listed, List.append_assoc, List.append_assoc] at same
                  obtain ⟨rfl, names⟩ := readable.front_inj itemA itemB same
                  exact ⟨rfl, List.append_cancel_left names⟩
              | cons b' bs => exact absurd same (readable.last_ne_inner itemA itemB followsX)
          | cons a' as =>
              cases bs with
              | nil => exact absurd same.symm (readable.last_ne_inner itemB itemA followsY)
              | cons b' bs =>
                  simp only [listed, List.append_assoc] at same
                  obtain ⟨rfl, names⟩ := readable.front_inj itemA itemB same
                  have rests := (List.cons.inj (List.append_cancel_left names)).2
                  obtain ⟨tails, ends⟩ := ih (List.cons_ne_nil _ _) (List.cons_ne_nil _ _)
                    (fun c mem => itemsA c (List.mem_cons_of_mem _ mem))
                    (fun c mem => itemsB c (List.mem_cons_of_mem _ mem)) rests
                  exact ⟨by rw [tails], ends⟩

end Readable
end
end NamedSql.Text
