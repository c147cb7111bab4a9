import NamedSql.Proofs.Json.Number
import NamedSql.Proofs.Json.Text

namespace NamedSql.Json

inductive Plain : Json → Prop
  | null : Plain .null
  | bool (b : Bool) : Plain (.bool b)
  | number {n : Decimal.Numeral} (plain : n.Plain) : Plain (.number n)
  | text (s : String) : Plain (.ofText s)
  | array {items : List Json} (plain : ∀ v ∈ items, Plain v) : Plain (.array items)
  | members {ms : List (String × Json)} (plain : ∀ m ∈ ms, Plain m.2) : Plain (.ofMembers ms)

/-- The text of a value is read as that value, with two units of fuel for each character. -/
def ReadsBack (v : Json) : Prop :=
  ∀ (fuel : Nat) (rest : List Char), 2 * v.chars.length ≤ fuel → EndsNumber rest →
    readValue fuel (v.chars ++ rest) = some (v, rest)

/-! ## First characters -/

theorem skipBlanks_cons {c : Char} (visible : isBlank c = false) (cs : List Char) :
    skipBlanks (c :: cs) = c :: cs :=
  List.dropWhile_cons_of_neg (by simp [visible])

def OpensValue (c : Char) : Prop := isBlank c = false ∧ c ≠ ']'

def OpensNumber (c : Char) : Prop := c = '-' ∨ (Decimal.digit? c).isSome

theorem opensNumber_literal (l : Literal) : ∃ c cs, l.chars = c :: cs ∧ OpensNumber c := by
  unfold Literal.chars
  cases l.negative with
  | true => exact ⟨'-', _, rfl, .inl rfl⟩
  | false =>
      obtain ⟨d, ds, whole⟩ := List.exists_cons_of_ne_nil l.nonempty
      rw [whole]
      exact ⟨Decimal.digitChar d, _, rfl, .inr (by simp [Decimal.digit?_digitChar])⟩

theorem opensNumber_chars {n : Decimal.Numeral} (plain : n.Plain) :
    ∃ c cs, n.chars = c :: cs ∧ OpensNumber c :=
  Literal.chars_ofNumeral plain ▸ opensNumber_literal (.ofNumeral n plain)

theorem opensValue_of_digit {c : Char} (digit : (Decimal.digit? c).isSome) : OpensValue c := by
  constructor
  · rw [Bool.eq_false_iff]
    intro blank
    simp only [isBlank, Bool.or_eq_true, decide_eq_true_eq] at blank
    rcases blank with ((rfl | rfl) | rfl) | rfl <;> exact absurd digit (by decide)
  · rintro rfl
    exact absurd digit (by decide)

theorem opensValue_of_number {c : Char} (first : OpensNumber c) : OpensValue c := by
  rcases first with rfl | digit
  · exact ⟨by decide, by decide⟩
  · exact opensValue_of_digit digit

theorem opensValue_chars {v : Json} (plain : v.Plain) :
    ∃ c cs, v.chars = c :: cs ∧ OpensValue c := by
  cases plain with
  | null => exact ⟨'n', _, rfl, by decide, by decide⟩
  | bool b => cases b <;> exact ⟨_, _, rfl, by decide, by decide⟩
  | number plain =>
      obtain ⟨c, cs, chars, first⟩ := opensNumber_chars plain
      exact ⟨c, cs, chars, opensValue_of_number first⟩
  | text s => exact ⟨'\x22', _, rfl, by decide, by decide⟩
  | array _ => exact ⟨'[', _, rfl, by decide, by decide⟩
  | members _ => exact ⟨'\x7b', _, rfl, by decide, by decide⟩

/-! ## Values that hold no other -/

theorem readsBack_of_succ {v : Json} (filled : v.chars ≠ [])
    (read : ∀ (fuel : Nat) (rest : List Char), 2 * v.chars.length ≤ fuel + 1 → EndsNumber rest →
      readValue (fuel + 1) (v.chars ++ rest) = some (v, rest)) : ReadsBack v := by
  intro fuel rest enough ends
  cases fuel with
  | zero =>
      have := List.length_pos_iff.mpr filled
      omega
  | succ fuel => exact read fuel rest enough ends

theorem readsBack_null : ReadsBack .null :=
  readsBack_of_succ (by decide) fun _ _ _ _ => rfl

theorem readsBack_bool (b : Bool) : ReadsBack (.bool b) := by
  cases b <;> exact readsBack_of_succ (by decide) fun _ _ _ _ => rfl

theorem readsBack_text (s : String) : ReadsBack (.ofText s) := by
  refine readsBack_of_succ (by simp [ofText, chars, stringChars]) fun fuel rest _ _ => ?_
  have read : readValue (fuel + 1) ('\x22' :: ((points s).flatMap pointChars ++ '\x22' :: rest)) =
      (readString ((points s).flatMap pointChars ++ '\x22' :: rest)).map
        fun r => (.string r.1, r.2) := rfl
  rw [readString_append] at read
  simpa [ofText, chars, stringChars] using read

theorem readValue_number {c : Char} (first : OpensNumber c) (fuel : Nat) (cs : List Char) :
    readValue (fuel + 1) (c :: cs) = (readNumber (c :: cs)).map fun r => (.number r.1, r.2) := by
  rw [readValue, skipBlanks_cons (opensValue_of_number first).1]
  -- Neither a sign nor a digit opens any other kind of value.
  split
  case h_7 => rfl
  all_goals
    rename_i same
    obtain ⟨rfl, -⟩ := List.cons.inj same
    exact absurd first (by unfold OpensNumber; decide)

theorem readsBack_number {n : Decimal.Numeral} (plain : n.Plain) : ReadsBack (.number n) := by
  obtain ⟨c, cs, chars_eq, first⟩ := opensNumber_chars plain
  refine readsBack_of_succ (by simp [chars, chars_eq]) fun fuel rest _ ends => ?_
  have read := readNumber_chars plain ends
  rw [chars]
  rw [chars_eq, List.cons_append] at read ⊢
  rw [readValue_number first, read]
  rfl

/-! ## Arrays -/

theorem endsNumber_comma (cs : List Char) : EndsNumber (',' :: cs) :=
  endsNumber_cons (by decide) (by decide) (by decide) cs

theorem endsNumber_bracket (cs : List Char) : EndsNumber (']' :: cs) :=
  endsNumber_cons (by decide) (by decide) (by decide) cs

theorem endsNumber_brace (cs : List Char) : EndsNumber ('\x7d' :: cs) :=
  endsNumber_cons (by decide) (by decide) (by decide) cs

theorem itemChars_cons_cons (v w : Json) (vs : List Json) :
    itemChars (v :: w :: vs) = v.chars ++ ',' :: itemChars (w :: vs) := by
  rw [itemChars]
  simp

theorem readItems_append {items : List Json} (filled : items ≠ [])
    (reads : ∀ v ∈ items, ReadsBack v) (fuel : Nat)
    (enough : 2 * (itemChars items).length < fuel) (rest : List Char) :
    readItems fuel (itemChars items ++ ']' :: rest) = some (items, rest) := by
  induction items generalizing fuel with
  | nil => exact absurd rfl filled
  | cons v vs ih =>
      obtain ⟨fuel, rfl⟩ : ∃ k, fuel = k + 1 := ⟨fuel - 1, by omega⟩
      have value := reads v List.mem_cons_self fuel
      cases vs with
      | nil =>
          rw [itemChars] at enough ⊢
          rw [readItems, value _ (by omega) (endsNumber_bracket rest)]
          rfl
      | cons w ws =>
          rw [itemChars_cons_cons, List.length_append, List.length_cons] at enough
          have others := ih (by simp) (fun u mem => reads u (List.mem_cons_of_mem _ mem)) fuel
            (by omega)
          rw [itemChars_cons_cons, List.append_assoc, List.cons_append, readItems,
            value _ (by omega) (endsNumber_comma _)]
          change (readItems fuel _).map _ = _
          rw [others]
          rfl

theorem readValue_items {c : Char} (opens : OpensValue c) (fuel : Nat) (cs : List Char) :
    readValue (fuel + 1) ('[' :: c :: cs) =
      (readItems fuel (c :: cs)).map fun r => (.array r.1, r.2) := by
  rw [readValue, skipBlanks_cons (by decide)]
  simp only
  rw [skipBlanks_cons opens.1]
  split
  · rename_i same
    exact absurd (List.cons.inj same).1 opens.2
  · rfl

theorem readsBack_array {items : List Json} (plain : ∀ v ∈ items, v.Plain)
    (reads : ∀ v ∈ items, ReadsBack v) : ReadsBack (.array items) := by
  refine readsBack_of_succ (by simp [chars]) fun fuel rest enough _ => ?_
  rw [chars, List.length_cons, List.length_append, List.length_singleton] at enough
  rw [chars, List.cons_append, List.append_assoc, List.singleton_append]
  cases items with
  | nil => rfl
  | cons v vs =>
      obtain ⟨c, cs, first, opens⟩ : ∃ c cs, itemChars (v :: vs) = c :: cs ∧ OpensValue c := by
        obtain ⟨c, cs, first, opens⟩ := opensValue_chars (plain v List.mem_cons_self)
        cases vs with
        | nil => exact ⟨c, cs, by rw [itemChars, first], opens⟩
        | cons w ws => exact ⟨c, _, by rw [itemChars_cons_cons, first, List.cons_append], opens⟩
      have read := readItems_append (List.cons_ne_nil v vs) reads fuel (by omega) rest
      rw [first, List.cons_append] at read ⊢
      rw [readValue_items opens, read]
      rfl

/-! ## Objects -/

def namedChars (m : String × Json) : List Char :=
  stringChars (points m.1) ++ ':' :: m.2.chars

def membersChars (ms : List (String × Json)) : List Char :=
  memberChars (ms.map fun m => (points m.1, m.2))

theorem membersChars_singleton (m : String × Json) : membersChars [m] = namedChars m := by
  rw [membersChars, List.map_cons, List.map_nil, memberChars]
  rfl

theorem membersChars_cons_cons (m n : String × Json) (ms : List (String × Json)) :
    membersChars (m :: n :: ms) = namedChars m ++ ',' :: membersChars (n :: ms) := by
  simp [membersChars, namedChars, memberChars]

theorem readMembers_named (m : String × Json) (fuel : Nat) (rest : List Char)
    (value : readValue fuel (m.2.chars ++ rest) = some (m.2, rest)) :
    readMembers (fuel + 1) (namedChars m ++ rest) =
      match skipBlanks rest with
      | ',' :: rest => (readMembers fuel rest).map fun r => ((points m.1, m.2) :: r.1, r.2)
      | '\x7d' :: rest => some ([(points m.1, m.2)], rest)
      | _ => none := by
  rw [namedChars, stringChars, List.append_assoc, List.cons_append, List.append_assoc,
    List.cons_append, List.nil_append, List.cons_append, readMembers, skipBlanks_cons (by decide)]
  simp only
  rw [readString_append]
  simp only
  rw [skipBlanks_cons (by decide)]
  simp only
  generalize readValue fuel (m.2.chars ++ rest) = read at value
  subst value
  rfl

theorem readMembers_append {ms : List (String × Json)} (filled : ms ≠ [])
    (reads : ∀ m ∈ ms, ReadsBack m.2) (fuel : Nat)
    (enough : 2 * (membersChars ms).length < fuel) (rest : List Char) :
    readMembers fuel (membersChars ms ++ '\x7d' :: rest) =
      some (ms.map fun m => (points m.1, m.2), rest) := by
  induction ms generalizing fuel with
  | nil => exact absurd rfl filled
  | cons m ms ih =>
      obtain ⟨fuel, rfl⟩ : ∃ k, fuel = k + 1 := ⟨fuel - 1, by omega⟩
      have value := reads m List.mem_cons_self fuel
      have length : m.2.chars.length ≤ (namedChars m).length := by
        simp only [namedChars, List.length_append, List.length_cons]
        omega
      cases ms with
      | nil =>
          rw [membersChars_singleton] at enough ⊢
          rw [readMembers_named m fuel _ (value _ (by omega) (endsNumber_brace rest))]
          rfl
      | cons n ms =>
          rw [membersChars_cons_cons, List.length_append, List.length_cons] at enough
          have others := ih (by simp) (fun u mem => reads u (List.mem_cons_of_mem _ mem)) fuel
            (by omega)
          rw [membersChars_cons_cons, List.append_assoc, List.cons_append,
            readMembers_named m fuel _ (value _ (by omega) (endsNumber_comma _))]
          change (readMembers fuel _).map _ = _
          rw [others]
          rfl

theorem readsBack_members {ms : List (String × Json)} (reads : ∀ m ∈ ms, ReadsBack m.2) :
    ReadsBack (.ofMembers ms) := by
  refine readsBack_of_succ (by simp [ofMembers, chars]) fun fuel rest enough _ => ?_
  rw [ofMembers, chars, List.length_cons, List.length_append, List.length_singleton] at enough
  rw [ofMembers, chars, List.cons_append, List.append_assoc, List.singleton_append]
  cases ms with
  | nil => rfl
  | cons m ms =>
      have read := readMembers_append (List.cons_ne_nil m ms) reads fuel (by
        change 2 * (memberChars _).length < fuel
        omega) rest
      obtain ⟨cs, first⟩ : ∃ cs, membersChars (m :: ms) = '\x22' :: cs := by
        cases ms with
        | nil => exact ⟨_, by rw [membersChars_singleton]; rfl⟩
        | cons n ms => exact ⟨_, by rw [membersChars_cons_cons]; rfl⟩
      change readValue (fuel + 1) ('\x7b' :: (membersChars (m :: ms) ++ '\x7d' :: rest)) = _
      rw [first, List.cons_append] at read ⊢
      change (readMembers fuel _).map _ = _
      rw [read]
      rfl

/-! ## Every value -/

theorem readsBack_of_plain {v : Json} (plain : v.Plain) : ReadsBack v := by
  induction plain with
  | null => exact readsBack_null
  | bool b => exact readsBack_bool b
  | number plain => exact readsBack_number plain
  | text s => exact readsBack_text s
  | array plain ih => exact readsBack_array plain ih
  | members _ ih => exact readsBack_members ih

theorem parse_text {v : Json} (plain : v.Plain) : parse v.text = some v := by
  have read := readsBack_of_plain plain (2 * v.chars.length + 2) [] (by omega) endsNumber_nil
  rw [List.append_nil] at read
  rw [parse, text, String.toList_ofList, read]
  rfl

theorem parse_literal (l : Literal) : parse l.text = some (.number l.numeral) := by
  obtain ⟨c, cs, chars_eq, first⟩ := opensNumber_literal l
  have read := readNumber_literal l endsNumber_nil
  rw [List.append_nil, chars_eq] at read
  rw [parse, Literal.text, String.toList_ofList, chars_eq, readValue_number first, read]
  rfl

end NamedSql.Json
